import LayeredConfig.Proofs.Editor.Store
import LayeredConfig.Proofs.View.Reads

/-!
# Reading back what was stored

Where all sources hold texts that can be changed, a read finds the text of the highest holder.
A policy directs each key to all sources or to one; above that one nothing holds the key, so
what is set there is what is read, and what is removed there uncovers the next holder below.
-/
namespace LayeredConfig

/-! ## What a request says of a text -/

namespace ChangeRequest

variable {r : ChangeRequest} {key : String}

/-- What becomes of the text under a key. -/
def said? (r : ChangeRequest) (key : String) (old : Option String) : Option String :=
  match r.puts.get? key with
  | some text => some text
  | none => if r.removes.contains key then none else old

theorem get?_applyTo_eq_said? (content : StringMap String) :
    (r.applyTo content).get? key = r.said? key (content.get? key) :=
  r.get?_applyTo content key

theorem said?_of_put {text : String} (h : r.puts.get? key = some text) (old : Option String) :
    r.said? key old = some text := by
  simp [said?, h]

/-- The request removes the key; one that is set as well is set. -/
def Removes (r : ChangeRequest) (key : String) : Prop :=
  r.removes.contains key ∧ r.puts.get? key = none

theorem said?_of_removes (h : r.Removes key) (old : Option String) : r.said? key old = none := by
  simp [said?, h.1, h.2]

theorem said?_of_not_touches (h : r.touches key = false) (old : Option String) :
    r.said? key old = old := by
  obtain ⟨hputs, hremoves⟩ := get?_of_not_touches h
  simp [said?, StringMap.contains, hputs, hremoves]

theorem said?_restrict (p : String → Bool) (old : Option String) :
    (r.restrict p).said? key old = if p key then r.said? key old else old := by
  unfold said?
  rw [get?_puts_restrict, StringMap.contains, get?_removes_restrict]
  cases p key with
  | false => simp
  | true =>
    cases hput : r.puts.get? key with
    | some text => simp
    | none =>
      simp only [StringMap.contains, hput, Bool.true_and, if_true, Option.isSome_none,
        Bool.not_false]
      rfl

end ChangeRequest

/-! ## Texts -/

/-- The source holds texts that can be changed. -/
def Source.IsOpen (s : Source) : Prop :=
  ∃ m, s = .memory m ∧ m.readOnly = false

/-- The text a source has for a key. -/
def Mount.text? (m : Mount) (key : String) : Option String :=
  (m.find key).value.bind (·.value)

namespace Mount

variable {m : Mount} {key : String}

theorem find_memory {s : MemorySource} (h : m.source = .memory s) :
    (m.find key).value = s.get key := by
  apply value_find_of_ok
  rw [h]
  rfl

theorem text?_memory {s : MemorySource} (h : m.source = .memory s) :
    m.text? key = s.entries.get? key := by
  rw [text?, find_memory h, MemorySource.get]
  cases s.entries.get? key <;> rfl

theorem isOpen_find (h : m.source.IsOpen) :
    (m.find key).value = (m.text? key).map fun text => .text key text m.name := by
  obtain ⟨s, hs, -⟩ := h
  rw [find_memory hs, text?_memory hs, name, hs]
  rfl

theorem text?_eq_none_iff (h : m.source.IsOpen) : m.text? key = none ↔ m.holds key = false := by
  rw [← m.isSome_find, isOpen_find h]
  simp

theorem findSome?_find {ms : List Mount} (h : ∀ m ∈ ms, m.source.IsOpen) :
    (ms.findSome? fun m => (m.find key).value).bind (·.value) = ms.findSome? (·.text? key) := by
  induction ms with
  | nil => rfl
  | cons m ms ih =>
    obtain ⟨hm, hms⟩ := List.forall_mem_cons.mp h
    simp only [List.findSome?_cons, isOpen_find hm]
    cases m.text? key with
    | some text => rfl
    | none => exact ih hms

end Mount

namespace View

/-- Nothing stands between a read and the texts of the sources. -/
structure Direct (v : View) : Prop where
  overriding : v.combination = .overriding
  unfiltered : v.filters = []
  unevaluated : v.evaluator = none
  isOpen : ∀ m ∈ v.sources, m.source.IsOpen

variable {v : View}

/-- A read finds the text of the highest holder. -/
theorem Direct.value_getText (h : v.Direct) (key : String) :
    (v.getText key).value = .ok (v.sources.reverse.findSome? (·.text? key)) := by
  have hresolve : (v.resolve key).value
      = v.sources.reverse.findSome? fun m => (m.find key).value := by
    rw [resolve, h.overriding, ← value_firstHolder]
    rfl
  have hread : (v.getText key).value = .ok ((v.resolve key).value.bind (·.value)) := by
    have hfilter : v.filter .empty (.single key) = some := by
      funext p
      rw [filter, h.unfiltered]
      rfl
    rw [getText, Journaled.value_bind, Journaled.value_pure, get, value_getWith, hfilter]
    cases (v.resolve key).value with
    | none => rfl
    | some p => simp [evaluate, h.unevaluated, Except.map]
  rw [hread, hresolve, Mount.findSome?_find (by simpa using h.isOpen)]

theorem Direct.subset (h : v.Direct) {ms : List Mount} (hms : ms ⊆ v.sources) :
    ({ v with sources := ms } : View).Direct :=
  ⟨h.overriding, h.unfiltered, h.unevaluated, fun m hm => h.isOpen m (hms hm)⟩

end View

/-! ## Where a key goes -/

namespace Policy

/-- The source is asked for what the request says of the key, if it says anything. -/
def directs (p : Policy) (targets : List Mount) (key : String) (m : Mount) : Bool :=
  match p with
  | all => true
  | firstMatching fallback => (recipient? targets fallback key).any (·.name == m.name)
  | mostSignificant => targets.head?.any (·.name == m.name)
  | selective names => names.contains m.name
  | dryRun => false

/-- What becomes of the text of a source. -/
def textAfter (p : Policy) (r : ChangeRequest) (targets : List Mount) (key : String) (m : Mount) :
    Option String :=
  if p.directs targets key m then r.said? key (m.text? key) else m.text? key

/-- What becomes of a source. -/
def leaves (p : Policy) (r : ChangeRequest) (targets : List Mount) (m : Mount) : Mount :=
  ⟨m.id, if p.selects r targets m then m.source.after (p.share r targets m) else m.source⟩

variable {p : Policy} {r : ChangeRequest} {targets : List Mount} {m : Mount}

theorem textAfter_of_not_touches {key : String} (h : r.touches key = false) (m : Mount) :
    p.textAfter r targets key m = m.text? key := by
  simp [textAfter, ChangeRequest.said?_of_not_touches h]

theorem isOpen_leaves (h : m.source.IsOpen) : (p.leaves r targets m).source.IsOpen := by
  obtain ⟨s, hs, hwritable⟩ := h
  unfold leaves
  split
  · refine ⟨{ s with entries := (p.share r targets m).applyTo s.entries }, ?_, hwritable⟩
    rw [hs]
    exact Source.after_writable hwritable _
  · exact ⟨s, hs, hwritable⟩

theorem text?_after (h : m.source.IsOpen) (r : ChangeRequest) (key : String) :
    Mount.text? ⟨m.id, m.source.after r⟩ key = r.said? key (m.text? key) := by
  obtain ⟨s, hs, hwritable⟩ := h
  have hafter : (Mount.mk m.id (m.source.after r)).source
      = .memory { s with entries := r.applyTo s.entries } := by
    rw [hs]
    exact Source.after_writable hwritable r
  rw [Mount.text?_memory hafter, Mount.text?_memory hs]
  exact r.get?_applyTo_eq_said? s.entries

theorem text?_leaves (h : m.source.IsOpen) (key : String) :
    (p.leaves r targets m).text? key = p.textAfter r targets key m := by
  have hasked : (p.leaves r targets m).text? key
      = if p.selects r targets m then (p.share r targets m).said? key (m.text? key)
        else m.text? key := by
    unfold leaves
    cases p.selects r targets m with
    | true => exact text?_after h _ key
    | false => rfl
  rw [hasked]
  cases p with
  | firstMatching fallback =>
    have hshare : ((firstMatching fallback).share r targets m).said? key (m.text? key)
        = (firstMatching fallback).textAfter r targets key m :=
      ChangeRequest.said?_restrict _ _
    split
    · exact hshare
    · next hselects =>
      -- What there is for a source that is not asked says nothing.
      have hempty : ((firstMatching fallback).share r targets m).isEmpty := by
        simpa [selects] using hselects
      rw [← hshare, ChangeRequest.said?_of_not_touches (ChangeRequest.touches_of_isEmpty hempty key)]
  | all | mostSignificant | selective | dryRun => rfl

/-! ## One recipient -/

/-- The key goes to one source, above which nothing holds it. -/
structure GoesTo (p : Policy) (targets : List Mount) (key : String) (above : List Mount)
    (m : Mount) (below : List Mount) : Prop where
  targets_eq : targets = above ++ m :: below
  directs : ∀ n, p.directs targets key n = (m.name == n.name)
  above : ∀ n ∈ above, n.text? key = none

variable {key : String} {above below : List Mount}

theorem GoesTo.findSome?_textAfter (h : p.GoesTo targets key above m below)
    (hnames : (targets.map Mount.name).Nodup) :
    targets.findSome? (p.textAfter r targets key)
      = (r.said? key (m.text? key)).or (below.findSome? (·.text? key)) := by
  have hself : p.textAfter r targets key m = r.said? key (m.text? key) := by
    simp [textAfter, h.directs]
  have hother : ∀ n ∈ above ++ below, p.textAfter r targets key n = n.text? key := by
    intro n hn
    have hnodup : (m.name :: (above ++ below).map Mount.name).Nodup := by
      rw [h.targets_eq, List.map_append, List.map_cons, List.nodup_middle] at hnames
      simpa using hnames
    have hne : m.name ≠ n.name := fun heq =>
      (List.nodup_cons.mp hnodup).1 (heq ▸ List.mem_map_of_mem hn)
    simp [textAfter, h.directs, hne]
  have habove : above.findSome? (p.textAfter r targets key) = none := by
    rw [List.findSome?_eq_none_iff]
    intro n hn
    rw [hother n (List.mem_append_left below hn), h.above n hn]
  have hbelow : below.findSome? (p.textAfter r targets key) = below.findSome? (·.text? key) :=
    findSome?_congr fun n hn => hother n (List.mem_append_right above hn)
  generalize p.textAfter r targets key = after at *
  rw [h.targets_eq, List.findSome?_append, habove, Option.none_or, List.findSome?_cons, hself,
    hbelow]
  cases r.said? key (m.text? key) <;> rfl

theorem goesTo_top (top : Mount) (below : List Mount) :
    mostSignificant.GoesTo (top :: below) key [] top below :=
  ⟨rfl, fun _ => rfl, nofun⟩

theorem goesTo_recipient {fallback : String} (htargets : targets = above ++ m :: below)
    (hgoes : recipient? targets fallback key = some m)
    (hopen : ∀ m ∈ targets, m.source.IsOpen) (habove : ∀ n ∈ above, n.holds key = false) :
    (firstMatching fallback).GoesTo targets key above m below where
  targets_eq := htargets
  directs n := by simp [Policy.directs, hgoes]
  above := by
    intro n hn
    have hmem : n ∈ targets := by simp [htargets, hn]
    exact (Mount.text?_eq_none_iff (hopen n hmem)).mpr (habove n hn)

theorem goesTo_holder {fallback : String} (htargets : targets = above ++ m :: below)
    (hopen : ∀ m ∈ targets, m.source.IsOpen) (hholds : m.holds key)
    (habove : ∀ n ∈ above, n.holds key = false) :
    (firstMatching fallback).GoesTo targets key above m below := by
  refine goesTo_recipient htargets ?_ hopen habove
  have hfind : targets.find? (·.holds key) = some m := by
    refine List.find?_eq_some_iff_append.mpr ⟨hholds, above, below, htargets, ?_⟩
    simpa using habove
  simp [recipient?, hfind]

/-- Where the fallback is there, every key goes to a source. -/
theorem exists_goesTo {fallback : String} (hfallback : fallback ∈ targets.map Mount.name)
    (hopen : ∀ m ∈ targets, m.source.IsOpen) (key : String) :
    ∃ above m below, (firstMatching fallback).GoesTo targets key above m below := by
  cases hholder : targets.find? (·.holds key) with
  | some m =>
    obtain ⟨hholds, above, below, htargets, habove⟩ := List.find?_eq_some_iff_append.mp hholder
    exact ⟨above, m, below, goesTo_holder htargets hopen hholds (by simpa using habove)⟩
  | none =>
    obtain ⟨n, hn, hname⟩ := List.mem_map.mp hfallback
    obtain ⟨m, hm⟩ : ∃ m, targets.find? (·.name == fallback) = some m :=
      Option.isSome_iff_exists.mp (List.find?_isSome.mpr ⟨n, hn, by simp [hname]⟩)
    obtain ⟨above, below, htargets⟩ := List.append_of_mem (List.mem_of_find?_eq_some hm)
    have hgoes : recipient? targets fallback key = some m := by simp [recipient?, hholder, hm]
    refine ⟨above, m, below, goesTo_recipient htargets hgoes hopen ?_⟩
    intro n hn
    have hmem : n ∈ targets := by simp [htargets, hn]
    simpa using List.find?_eq_none.mp hholder n hmem

end Policy

/-! ## All sources -/

theorem Sources.mounts_eq_map {σ τ : Sources} {ids : List SourceId} {f : Mount → Mount}
    (h : ∀ id ∈ ids, τ.mount? id = (σ.mount? id).map f) :
    τ.mounts ids = (σ.mounts ids).map f := by
  rw [mounts, mounts, List.map_filterMap]
  exact List.filterMap_congr h

section Store

variable {c : Configuration} {σ τ : Sources}

/-- Where all sources are open, all of them take changes. -/
theorem View.Direct.mutableMounts_eq (h : (c.view σ).Direct) :
    c.registry.mutableMounts σ = (c.view σ).sources.reverse := by
  have hall : ∀ m ∈ (c.view σ).sources.reverse, m.source.isMutable := by
    intro m hm
    obtain ⟨s, hs, -⟩ := h.isOpen m (List.mem_reverse.mp hm)
    rw [hs]
    rfl
  rw [← List.filter_eq_self.mpr hall, Registry.mutableMounts]
  simp [Configuration.view, Sources.mounts, List.filterMap_reverse]

/-- The view after a propagation. -/
theorem Accounted.sources_view {p : Policy} {r : ChangeRequest}
    {x : Journaled (Outcome × Sources)} (hc : c.Reachable σ)
    (h : Accounted p r (c.registry.mutableMounts σ) σ x) :
    (c.view x.value.2).sources
      = (c.view σ).sources.map (p.leaves r (c.registry.mutableMounts σ)) := by
  apply Sources.mounts_eq_map
  intro id hid
  obtain ⟨rank, hrank, rfl⟩ := List.mem_map.mp hid
  obtain ⟨s, hs, -⟩ := hc.sound.kept rank hrank
  have hmounted := c.registry.mounted_mutableMounts σ
  have hget : x.value.2.get? rank.id
      = some (p.leaves r (c.registry.mutableMounts σ) ⟨rank.id, s⟩).source := by
    cases hmutable : s.isMutable with
    | true =>
      have hids := nodup_ids hmounted hc.sound.nodup_names_mutableMounts
      have hmem : (⟨rank.id, s⟩ : Mount) ∈ c.registry.mutableMounts σ :=
        Registry.mem_mutableMounts.mpr ⟨hid, hs, hmutable⟩
      exact h.get?_eq hmounted hids hmem
    | false =>
      -- A source that takes no changes is no target, and what it was asked would not change it.
      have htarget : rank.id ∉ (c.registry.mutableMounts σ).map Mount.id := by
        intro htarget
        obtain ⟨m, hm, hid⟩ := List.mem_map.mp htarget
        obtain ⟨-, hsource, hother⟩ := Registry.mem_mutableMounts.mp hm
        rw [hid, hs] at hsource
        cases hsource
        rw [hother] at hmutable
        cases hmutable
      rw [h.get?_of_not_mem htarget, hs]
      simp [Policy.leaves, Source.after_of_not_isMutable hmutable]
  rw [Sources.mount?, Sources.mount?, hs, hget]
  rfl

variable {L : Type} {e : Editor L} {backups : Option BackupStore} {stamp : Stamp}
  {outcome : Outcome}

theorem Editor.value_getText_store (hc : c.Reachable σ) (hdirect : (c.view σ).Direct)
    (hok : (e.store c σ backups stamp).value.result = .ok outcome) (key : String) :
    ((c.view (e.store c σ backups stamp).value.sources).getText key).value
      = .ok ((c.view σ).sources.reverse.findSome?
          (e.policy.textAfter e.request (c.view σ).sources.reverse key)) := by
  cases hrequest : e.request.isEmpty with
  | true =>
    have htouches := ChangeRequest.touches_of_isEmpty hrequest key
    rw [(value_store_of_isEmpty hrequest hok).1, hdirect.value_getText]
    exact congrArg Except.ok
      (findSome?_congr fun m _ => (Policy.textAfter_of_not_touches htouches m).symm)
  | false =>
    have haccounted := hc.accounted e.policy e.request
    obtain ⟨-, -, hsources, -⟩ := value_store_of_not_isEmpty hrequest hok
    have hview := haccounted.sources_view hc
    have hafter : (c.view (e.policy.propagate e.request (c.registry.mutableMounts σ) σ).value.2).Direct := by
      refine ⟨hdirect.overriding, hdirect.unfiltered, hdirect.unevaluated, ?_⟩
      rw [hview]
      intro m hm
      obtain ⟨n, hn, rfl⟩ := List.mem_map.mp hm
      exact Policy.isOpen_leaves (hdirect.isOpen n hn)
    rw [hsources, hafter.value_getText, hview, ← List.map_reverse, List.findSome?_map,
      hdirect.mutableMounts_eq]
    refine congrArg Except.ok (findSome?_congr fun m hm => ?_)
    exact Policy.text?_leaves (hdirect.isOpen m (List.mem_reverse.mp hm)) key

end Store

/-! ## Reading back -/

/-- How keys read after a request was stored, against how they read before. -/
structure ReadsBack (p : Policy) (r : ChangeRequest) (before after : View) : Prop where
  put : ∀ key text, r.puts.get? key = some text → (after.getText key).value = .ok (some text)
  removed_everywhere : p = .all → ∀ key, r.Removes key → (after.getText key).value = .ok none
  /-- Removing a key from the top source uncovers what the others have. -/
  removed_on_top : p = .mostSignificant → ∀ key, r.Removes key →
    ∀ below top, before.sources = below ++ [top] →
      (after.getText key).value = (({ before with sources := below } : View).getText key).value
  /-- Removing a key from its highest holder uncovers what those below have. -/
  removed_from_holder : ∀ fallback, p = .firstMatching fallback → ∀ key, r.Removes key →
    ∀ below m above, before.sources = below ++ m :: above → m.holds key →
      (∀ n ∈ above, n.holds key = false) →
      (after.getText key).value = (({ before with sources := below } : View).getText key).value
  removed_from_none : ∀ fallback, p = .firstMatching fallback → ∀ key, r.Removes key →
    (∀ m ∈ before.sources, m.holds key = false) → (after.getText key).value = .ok none
  untouched : ∀ key, r.touches key = false →
    (after.getText key).value = (before.getText key).value

section ReadsBack

variable {p : Policy} {r : ChangeRequest} {before after : View}

theorem View.Direct.readsBack (hdirect : before.Direct)
    (hnames : (before.sources.reverse.map Mount.name).Nodup) (hsources : before.sources ≠ [])
    (hpolicy : p = .all ∨ p = .mostSignificant ∨
      ∃ fallback ∈ before.sources.reverse.map Mount.name, p = .firstMatching fallback)
    (hafter : ∀ key, (after.getText key).value
      = .ok (before.sources.reverse.findSome? (p.textAfter r before.sources.reverse key))) :
    ReadsBack p r before after := by
  have hopen : ∀ m ∈ before.sources.reverse, m.source.IsOpen := by simpa using hdirect.isOpen
  obtain ⟨top, rest, htop⟩ := List.exists_cons_of_ne_nil (mt List.reverse_eq_nil_iff.mp hsources)
  -- The one source that a key goes to is asked, and those below it are left as they were.
  have hgoes : ∀ {key above m below}, p.GoesTo before.sources.reverse key above m below →
      (after.getText key).value
        = .ok ((r.said? key (m.text? key)).or (below.findSome? (·.text? key))) := by
    intro key above m below h
    rw [hafter, h.findSome?_textAfter hnames]
  have huncovered : ∀ {key above m below}, r.Removes key →
      p.GoesTo before.sources.reverse key above m below.reverse → below ⊆ before.sources →
      (after.getText key).value = (({ before with sources := below } : View).getText key).value := by
    intro key above m below hremoves h hbelow
    rw [hgoes h, ChangeRequest.said?_of_removes hremoves, Option.none_or,
      (hdirect.subset hbelow).value_getText]
  constructor
  · intro key text hput
    have hone : ∀ {above m below}, p.GoesTo before.sources.reverse key above m below →
        (after.getText key).value = .ok (some text) := by
      intro above m below h
      rw [hgoes h, ChangeRequest.said?_of_put hput]
      rfl
    rcases hpolicy with rfl | rfl | ⟨fallback, hfallback, rfl⟩
    · rw [hafter, htop, List.findSome?_cons]
      simp [Policy.textAfter, Policy.directs, ChangeRequest.said?_of_put hput]
    · exact hone (htop ▸ Policy.goesTo_top top rest)
    · obtain ⟨above, m, below, h⟩ := Policy.exists_goesTo hfallback hopen key
      exact hone h
  · rintro rfl key hremoves
    rw [hafter]
    refine congrArg Except.ok (List.findSome?_eq_none_iff.mpr fun m _ => ?_)
    simp [Policy.textAfter, Policy.directs, ChangeRequest.said?_of_removes hremoves]
  · rintro rfl key hremoves below top hsplit
    have htargets : before.sources.reverse = top :: below.reverse := by simp [hsplit]
    exact huncovered hremoves (htargets ▸ Policy.goesTo_top top below.reverse) (by simp [hsplit])
  · rintro fallback rfl key hremoves below m above hsplit hholds habove
    have htargets : before.sources.reverse = above.reverse ++ m :: below.reverse := by
      simp [hsplit]
    exact huncovered hremoves
      (Policy.goesTo_holder htargets hopen hholds (by simpa using habove)) (by simp [hsplit])
  · rintro fallback rfl key hremoves hholds
    obtain ⟨_, hfallback, rfl⟩ : ∃ f ∈ before.sources.reverse.map Mount.name, fallback = f := by
      simpa using hpolicy
    obtain ⟨above, m, below, h⟩ := Policy.exists_goesTo hfallback hopen key
    rw [hgoes h, ChangeRequest.said?_of_removes hremoves, Option.none_or]
    refine congrArg Except.ok (List.findSome?_eq_none_iff.mpr fun n hn => ?_)
    have hmem : n ∈ before.sources.reverse := by simp [h.targets_eq, hn]
    exact (Mount.text?_eq_none_iff (hopen n hmem)).mpr (hholds n (List.mem_reverse.mp hmem))
  · intro key htouches
    rw [hafter, hdirect.value_getText]
    exact congrArg Except.ok
      (findSome?_congr fun m _ => Policy.textAfter_of_not_touches htouches m)

end ReadsBack

/-- Where all sources, of which there is one at least, can be changed and nothing stands between
them and a read, what is stored is read back. -/
theorem readsBack_store {L : Type} {e : Editor L} {c : Configuration} {σ : Sources}
    {backups : Option BackupStore} {stamp : Stamp} {outcome : Outcome}
    (hc : c.Reachable σ) (hdirect : (c.view σ).Direct) (hsources : (c.view σ).sources ≠ [])
    (hpolicy : e.policy = .all ∨ e.policy = .mostSignificant ∨
      ∃ fallback ∈ c.sourceNames, e.policy = .firstMatching fallback)
    (hok : (e.store c σ backups stamp).value.result = .ok outcome) :
    ReadsBack e.policy e.request (c.view σ)
      (c.view (e.store c σ backups stamp).value.sources) := by
  have hlisted : (c.view σ).sources.map Mount.name = c.sourceNames :=
    hc.sound.map_name_mounts (List.Subset.refl _)
  refine hdirect.readsBack ?_ hsources ?_ (Editor.value_getText_store hc hdirect hok)
  · rw [← hdirect.mutableMounts_eq]
    exact hc.sound.nodup_names_mutableMounts
  · simpa [← hlisted] using hpolicy

/-- A key is set where it is held, one nobody holds goes to the fallback, and one that two sources
hold is removed from the upper one. -/
theorem readsBack_of_uncovering :
    let time : Timestamp :=
      { year := 2024, month := 2, day := 29, hour := 0, minute := 0, second := 0,
        nanosecond := 0, offset := 0 }
    let σ : Sources :=
      ⟨#[.memory { name := "base", entries := .ofList [("a", "1"), ("b", "2")] },
         .memory { name := "top", ordinal := 1, entries := .singleton "a" "9" }]⟩
    let c : Configuration := { registry := (Registry.empty.withSources (σ.mounts [1, 0])).value }
    let e := (((Editor.new (L := Unit) (.firstMatching "base") ⟨"r", time⟩).put "b" "3").put
      "n" "4").remove "a"
    let stored := (e.store c σ none ⟨"s", time⟩).value
    ["a", "b", "n"].map (c.view σ).shown? = [some "9", some "2", none] ∧
    ["a", "b", "n"].map (c.view stored.sources).shown? = [some "1", some "3", some "4"] ∧
    ReadsBack (.firstMatching "base") e.request (c.view σ) (c.view stored.sources) := by
  intro time σ c e stored
  have hc : c.Reachable σ := by
    refine .build (b := { sources := σ.mounts [1, 0] }) ?_ rfl
    simp [σ, Sources.mounts, Sources.mount?, Sources.get?, Sources.Keeps, Mount.name]
  have hdirect : (c.view σ).Direct := by
    refine ⟨rfl, rfl, rfl, ?_⟩
    intro m hm
    obtain ⟨id, -, hmount⟩ := List.mem_filterMap.mp hm
    obtain ⟨s, hs, rfl⟩ := Option.map_eq_some_iff.mp hmount
    have hin : s ∈ σ.cells := Array.mem_of_getElem? hs
    rcases List.mem_pair.mp (Array.mem_toList_iff.mpr hin) with rfl | rfl <;> exact ⟨_, rfl, rfl⟩
  obtain ⟨outcome, hok⟩ : ∃ outcome, stored.result = .ok outcome :=
    Editor.exists_result_ok rfl none
  refine ⟨by decide +kernel, by decide +kernel, ?_⟩
  exact readsBack_store hc hdirect (by decide) (.inr (.inr ⟨"base", by decide, rfl⟩)) hok

end LayeredConfig
