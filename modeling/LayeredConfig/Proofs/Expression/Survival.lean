import LayeredConfig.Proofs.Expression.Pass
import Mathlib.Data.List.Induction

/-!
# What survives a pass

A pass writes escapes and unanswered placeholders back as they are, between answers that
may hold any text. Whether the next pass reads them as what they were depends on the text
in front of each of them, and on nothing else: that text has to be one that parses, and
in front of a placeholder it must not end in a backslash.
-/
namespace LayeredConfig

namespace Segment

/-- The segment stands among the segments where the given text in front of it ends. -/
def StandsAfter (front : List Char) (s : Segment) (ss : List Segment) : Prop :=
  ∃ before after, ss = before ++ s :: after ∧ writeAll before = front

/-- A text that leaves the segment after it what it is. -/
structure Spares (front : List Char) (s : Segment) : Prop where
  /-- No placeholder of the text is still open where the text ends. -/
  parses : ∃ ss, parse front = .ok ss
  /-- The text does not turn the dollar of a placeholder into an escape. -/
  noBackslash : s ≠ .escape → front.getLast? ≠ some '\\'

/-! ## Scans and their last character -/

theorem Scan.brace_not_mem {cs rest inner : List Char} {ts : List Segment} (h : Scan cs ts rest)
    (hmem : .placeholder inner ∈ ts) : '}' ∉ inner := by
  induction h with
  | done => cases hmem
  | char _ _ ih => exact ih (by simpa using hmem)
  | escape _ ih => exact ih (by simpa using hmem)
  | placeholder hc _ ih =>
    rcases List.mem_cons.mp hmem with heq | hmem
    · cases heq
      exact hc
    · exact ih hmem

/-- A backslash at the end of what was read opens nothing: it was read as a character. -/
theorem Scan.not_opens_backslash {cs rest : List Char} {ts : List Segment} (h : Scan cs ts rest)
    (hlast : (writeAll ts).getLast? = some '\\') : ¬ Opens '\\' rest := by
  induction ts using List.reverseRecOn with
  | nil => cases hlast
  | append_singleton ts t _ =>
    obtain ⟨mid, _, ht⟩ := h.split
    rw [writeAll_append, List.getLast?_append] at hlast
    cases ht with
    | char ho h =>
      cases h
      cases hlast
      exact ho
    | escape => cases hlast
    | @placeholder inner =>
      have hbrace : (raw inner).getLast? = some '}' :=
        List.getLast?_concat (l := '$' :: '{' :: inner)
      simp [writeAll, write, hbrace] at hlast

/-! ## Standing where the text in front ends -/

theorem write_ne_nil {s : Segment} (hs : ∀ text, s ≠ .literal text) : s.write ≠ [] := by
  cases s with
  | literal text => exact absurd rfl (hs text)
  | escape => simp [write]
  | placeholder inner => simp [write, raw]

/-- A segment that is written without a closing brace inside is read where it stands. -/
theorem Scan.single {s : Segment} (hs : ∀ text, s ≠ .literal text)
    (hbrace : ∀ inner, s = .placeholder inner → '}' ∉ inner) (rest : List Char) :
    Scan (s.write ++ rest) [s] rest := by
  cases s with
  | literal text => exact absurd rfl (hs text)
  | escape => exact .escape .done
  | placeholder inner => exact .placeholder (hbrace inner rfl) .done

theorem Spares.of_standsAfter {front back : List Char} {s : Segment} {next : List Segment}
    (hs : ∀ text, s ≠ .literal text) (hnext : parse (front ++ (s.write ++ back)) = .ok next)
    (h : s.StandsAfter front next) : Spares front s := by
  obtain ⟨before, after, rfl, rfl⟩ := h
  have hscan := scan_of_parse hnext
  rw [pieces_append] at hscan
  obtain ⟨mid, hbefore, _⟩ := hscan.split
  -- The scan of what stands in front ends where the segment was written.
  have hmid : s.write ++ back = mid := by
    have := hbefore.text_eq
    rw [writeAll_pieces] at this
    exact List.append_cancel_left this
  subst hmid
  constructor
  · obtain ⟨ss, hss, _⟩ := hbefore.truncate.parses
    rw [writeAll_pieces] at hss
    exact ⟨ss, hss⟩
  · intro hne hlast
    have hopen := hbefore.not_opens_backslash (by rw [writeAll_pieces]; exact hlast)
    cases s with
    | literal text => exact hs text rfl
    | escape => exact hne rfl
    | placeholder inner => exact hopen (opens_escape _)

theorem Spares.standsAfter {front back : List Char} {s : Segment} {next : List Segment}
    (hs : ∀ text, s ≠ .literal text) (hbrace : ∀ inner, s = .placeholder inner → '}' ∉ inner)
    (hnext : parse (front ++ (s.write ++ back)) = .ok next)
    (h : Spares front s) : s.StandsAfter front next := by
  obtain ⟨ss, hss⟩ := h.parses
  -- Only the dollar of a placeholder can be drawn into an escape by what stands before it.
  have hseam : ∀ c, front.getLast? = some c → ¬ Opens c (s.write ++ back) := by
    intro c hc hopen
    cases s with
    | literal text => exact hs text rfl
    | escape => rcases hopen with ⟨_, hhead⟩ | ⟨_, hhead⟩ <;> cases hhead
    | placeholder inner =>
      rcases hopen with ⟨rfl, _⟩ | ⟨_, hhead⟩
      · exact h.noBackslash nofun hc
      · cases hhead
  have hfront := ((scan_of_parse hss).extend hseam).append (Scan.single hs hbrace back)
  obtain ⟨us, hpieces, _⟩ := hfront.prefix_of_parse hnext
  rw [List.append_assoc] at hpieces
  obtain ⟨before, after, rfl, hbefore, _⟩ := split_of_pieces hs hpieces
  refine ⟨before, after, rfl, ?_⟩
  rw [← writeAll_pieces, hbefore, writeAll_pieces, writeAll_of_parse hss]

end Segment

namespace Evaluator

variable (ev : Evaluator) (lookup : Lookup)

/-- What a pass writes back: escapes, and placeholders that no resolver answers. -/
def isKept : Segment → Bool
  | .literal _ => false
  | .escape => true
  | .placeholder inner => (ev.answer lookup inner).value.isNone

theorem ne_literal_of_isKept {s : Segment} (h : ev.isKept lookup s) :
    ∀ text, s ≠ .literal text := by
  rintro text rfl
  cases h

theorem replacement_of_isKept {s : Segment} (h : ev.isKept lookup s) :
    ev.replacement lookup s = s.write := by
  apply replacement_of_none
  cases s with
  | literal text => rfl
  | escape => rfl
  | placeholder inner => exact Option.isNone_iff_eq_none.mp h

theorem isKept_of_placeholder {inner : List Char}
    (h : (ev.answer lookup inner).value = none) : ev.isKept lookup (.placeholder inner) :=
  Option.isNone_iff_eq_none.mpr h

theorem prefix_of_written_lt {b before next : List Segment} {s : Segment}
    (hstand : b ++ [s] <+: next) (hbefore : before <+: next)
    (hlt : (Segment.writeAll b).length < (Segment.writeAll before).length) :
    b ++ [s] <+: before := by
  rcases List.prefix_or_prefix_of_prefix hbefore hstand with h | h
  · rcases List.prefix_concat_iff.mp h with rfl | h
    · exact List.prefix_refl _
    · obtain ⟨more, rfl⟩ := h
      rw [Segment.writeAll_append, List.length_append] at hlt
      omega
  · exact h

/-- Segments that each stand where the text in front of them ends stand in their order. -/
theorem kept_sublist_of_standsAfter {segments next : List Segment}
    (hwritten : Segment.writeAll next = ev.passText lookup segments)
    (h : ∀ front s back, segments = front ++ s :: back → ev.isKept lookup s →
      s.StandsAfter (ev.passText lookup front) next) :
    (segments.filter (ev.isKept lookup)).Sublist (next.filter (ev.isKept lookup)) := by
  -- What is kept of a front of the segments stands in every front of the next segments that
  -- is at least as long, in characters, as what the pass made of the first.
  have hfronts : ∀ front back before, segments = front ++ back → before <+: next →
      (ev.passText lookup front).length ≤ (Segment.writeAll before).length →
      (front.filter (ev.isKept lookup)).Sublist (before.filter (ev.isKept lookup)) := by
    intro front
    induction front using List.reverseRecOn with
    | nil =>
      intros
      exact List.nil_sublist _
    | append_singleton front s ih =>
      intro back before hsegments hbefore hlength
      rw [List.append_assoc] at hsegments
      rw [passText_append, List.length_append] at hlength
      by_cases hs : ev.isKept lookup s
      · obtain ⟨b, a, rfl, hb⟩ := h front s back hsegments hs
        have hfilter : (front.filter (ev.isKept lookup)).Sublist (b.filter (ev.isKept lookup)) :=
          ih _ b hsegments (List.prefix_append _ _) (Nat.le_of_eq (by rw [hb]))
        have hwrite : 0 < (ev.passText lookup [s]).length := by
          rw [passText_cons, ev.replacement_of_isKept lookup hs, passText_nil, List.append_nil]
          exact List.length_pos_iff.mpr (Segment.write_ne_nil (ev.ne_literal_of_isKept lookup hs))
        -- Segments are written with at least one character, so `before` ends behind this one.
        have hlonger : b ++ [s] <+: before :=
          prefix_of_written_lt (by simp) hbefore (by rw [hb]; omega)
        have hstand : ((front ++ [s]).filter (ev.isKept lookup)).Sublist
            ((b ++ [s]).filter (ev.isKept lookup)) := by
          rw [List.filter_append, List.filter_append]
          exact hfilter.append_right _
        exact hstand.trans (hlonger.sublist.filter _)
      · have hfilter : (front ++ [s]).filter (ev.isKept lookup)
            = front.filter (ev.isKept lookup) := by simp [hs]
        rw [hfilter]
        exact ih _ before hsegments hbefore (by omega)
  exact hfronts segments [] next (by simp) (List.prefix_refl _) (Nat.le_of_eq (by rw [hwritten]))

/-- An escape or an unanswered placeholder is read after a pass as what it was, and where it
was put, just in case the text that the pass put in front of it spares it. Where all of them
are spared they come through the pass in their order, and a configuration that refuses
placeholders goes on refusing the text. -/
theorem standsAfter_pass_iff_spares {text : List Char} {segments next : List Segment}
    (hparse : Segment.parse text = .ok segments)
    (hnext : Segment.parse (ev.substitute lookup segments).value.1 = .ok next) :
    (∀ front s back, segments = front ++ s :: back → ev.isKept lookup s →
      (s.StandsAfter (ev.substitute lookup front).value.1 next
        ↔ Segment.Spares (ev.substitute lookup front).value.1 s)) ∧
    ((∀ front s back, segments = front ++ s :: back → ev.isKept lookup s →
        Segment.Spares (ev.substitute lookup front).value.1 s) →
      (segments.filter (ev.isKept lookup)).Sublist (next.filter (ev.isKept lookup)) ∧
      ∀ inner, .placeholder inner ∈ segments → (ev.answer lookup inner).value = none →
        ∃ left, render .fail next
          = .error (.unresolvedExpression (.ofList (Segment.raw left)))) := by
  change Segment.parse (ev.passText lookup segments) = .ok next at hnext
  have hiff : ∀ front s back, segments = front ++ s :: back → ev.isKept lookup s →
      (s.StandsAfter (ev.passText lookup front) next
        ↔ Segment.Spares (ev.passText lookup front) s) := by
    rintro front s back rfl hs
    have hliteral := ev.ne_literal_of_isKept lookup hs
    rw [passText_append, passText_cons, ev.replacement_of_isKept lookup hs] at hnext
    refine ⟨fun h => .of_standsAfter hliteral hnext h, fun h => h.standsAfter hliteral ?_ hnext⟩
    rintro inner rfl
    exact (Segment.scan_of_parse hparse).brace_not_mem (by simp)
  refine ⟨hiff, fun hspares => ?_⟩
  have hsublist := ev.kept_sublist_of_standsAfter lookup (Segment.writeAll_of_parse hnext)
    fun front s back hsplit hs => (hiff front s back hsplit hs).mpr (hspares front s back hsplit hs)
  refine ⟨hsublist, fun inner hmem hnone => ?_⟩
  have hinner := hsublist.subset
    (List.mem_filter.mpr ⟨hmem, ev.isKept_of_placeholder lookup hnone⟩)
  obtain ⟨left, _, hleft⟩ := display_fail_of_mem (List.mem_filter.mp hinner).1
  rw [render_eq_display]
  exact ⟨left, hleft⟩

theorem placeholder_stands_after_answer :
    let ev : Evaluator := ⟨[.configuration], .fail, 10⟩
    let lookup := Lookup.ofMap (.singleton "a" "v")
    let segments := [.escape, .placeholder ['a'], .placeholder ['x']]
    let next := [.escape, .literal ['v'], .placeholder ['x']]
    Segment.parse "\\$${a}${x}".toList = .ok segments ∧
    Segment.parse (ev.substitute lookup segments).value.1 = .ok next ∧
    Segment.StandsAfter (ev.substitute lookup [.escape, .placeholder ['a']]).value.1
      (.placeholder ['x']) next := by
  intro ev lookup segments next
  have hparse : Segment.parse "\\$${a}${x}".toList = .ok segments := by decide +kernel
  have hnext : Segment.parse (ev.substitute lookup segments).value.1 = .ok next := by
    decide +kernel
  refine ⟨hparse, hnext, ?_⟩
  refine ((ev.standsAfter_pass_iff_spares lookup hparse hnext).1 _ _ [] rfl
    (by decide +kernel)).mpr ⟨⟨[.escape, .literal ['v']], by decide +kernel⟩, fun _ => ?_⟩
  decide +kernel

/-- An answer that ends in a backslash makes an escape of the unanswered placeholder after it,
which is then shown as plain text where no placeholder may be left. -/
theorem backslash_escapes_next_placeholder :
    let ev : Evaluator := ⟨[.configuration], .fail, 10⟩
    let lookup := Lookup.ofMap (.singleton "a" "\\")
    let segments := [.placeholder ['a'], .placeholder ['x']]
    Segment.parse "${a}${x}".toList = .ok segments ∧
    (ev.answer lookup ['x']).value = none ∧
    Segment.parse (ev.substitute lookup segments).value.1
      = .ok [.escape, .literal ['{', 'x', '}']] ∧
    (ev.evaluate lookup "${a}${x}").value = .ok "${x}" := by
  decide +kernel

end Evaluator

end LayeredConfig
