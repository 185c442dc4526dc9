import LayeredConfig.Proofs.Propagation.Truth
import LayeredConfig.Proofs.Registry.Sound
import LayeredConfig.Proofs.View.Reads

/-!
# The search for the highest holder

Where the policy overrides, a key is searched for from the source that takes precedence down, and
the search stops at the first source that has a property for it. All candidates together would have
come to the same property, the last of them. So nothing is lost by stopping, and the sources below
are spared.
-/
namespace LayeredConfig

/-! ## Requests to sources -/

/-- The requests that were made to sources, in order. -/
def Journal.accesses (j : Journal) : List (SourceId × Access) :=
  j.filterMap fun
    | .access source access => some (source, access)
    | .log .. => none

namespace Journal

@[simp] theorem accesses_append (j k : Journal) : accesses (j ++ k) = accesses j ++ accesses k :=
  List.filterMap_append

end Journal

namespace Mount

/-- The source answers with a property for the key, be it one without a text. -/
def Holds (m : Mount) (key : String) (p : Property) : Prop :=
  m.source.get key = .ok (some p)

/-- The request for a key to one source. -/
def request (key : String) (m : Mount) : SourceId × Access :=
  (m.id, .get key)

theorem value_find_eq_some_iff {m : Mount} {key : String} {p : Property} :
    (m.find key).value = some p ↔ m.Holds key p := by
  rw [value_find, Holds]
  cases m.source.get key with
  | error e => simp [Except.toOption]
  | ok found => cases found <;> simp [Except.toOption]

theorem value_find_eq_none_iff {m : Mount} {key : String} :
    (m.find key).value = none ↔ ∀ p, ¬ m.Holds key p := by
  simp [Option.eq_none_iff_forall_ne_some, value_find_eq_some_iff]

/-- A source that fails is asked once like any other, whatever is logged about it. -/
theorem accesses_find (m : Mount) (key : String) :
    (m.find key).journal.accesses = [m.request key] := by
  rw [find, Journaled.journal_bind, Journal.accesses_append, Mount.get]
  cases m.source.get key <;> rfl

end Mount

/-! ## The search -/

/-- What a search through sources comes to. If it ends with a property, the sources up to the first
that holds one were asked for the key, each once and in their order, and this is the property that
it holds. If it ends with none, all were asked and none of them holds one. -/
def StopsAtHolder (key : String) (ms : List Mount) (x : Journaled (Option Property)) : Prop :=
  match x.value with
  | some p => ∃ above m below, ms = above ++ m :: below ∧ (∀ m' ∈ above, ∀ q, ¬ m'.Holds key q) ∧
      m.Holds key p ∧ x.journal.accesses = (above ++ [m]).map (Mount.request key)
  | none => (∀ m ∈ ms, ∀ q, ¬ m.Holds key q) ∧ x.journal.accesses = ms.map (Mount.request key)

theorem firstHolder_of_holds {m : Mount} {key : String} {p : Property} (h : m.Holds key p)
    (ms : List Mount) :
    (firstHolder key (m :: ms)).value = some p ∧
      (firstHolder key (m :: ms)).journal.accesses = [m.request key] := by
  rw [firstHolder, Journaled.value_bind, Journaled.journal_bind, Journal.accesses_append,
    m.accesses_find, Mount.value_find_eq_some_iff.mpr h]
  exact ⟨rfl, rfl⟩

theorem firstHolder_of_not_holds {m : Mount} {key : String} (h : ∀ p, ¬ m.Holds key p)
    (ms : List Mount) :
    (firstHolder key (m :: ms)).value = (firstHolder key ms).value ∧
      (firstHolder key (m :: ms)).journal.accesses
        = m.request key :: (firstHolder key ms).journal.accesses := by
  rw [firstHolder, Journaled.value_bind, Journaled.journal_bind, Journal.accesses_append,
    m.accesses_find, Mount.value_find_eq_none_iff.mpr h]
  exact ⟨rfl, rfl⟩

theorem stopsAtHolder_firstHolder (key : String) (ms : List Mount) :
    StopsAtHolder key ms (firstHolder key ms) := by
  induction ms with
  | nil => exact ⟨nofun, rfl⟩
  | cons m ms ih =>
    unfold StopsAtHolder at ih ⊢
    -- The first source ends the search, or it is one more of those above the end of the rest.
    by_cases hm : ∃ p, m.Holds key p
    · obtain ⟨p, hp⟩ := hm
      obtain ⟨hvalue, hasked⟩ := firstHolder_of_holds hp ms
      rw [hvalue]
      exact ⟨[], m, ms, rfl, nofun, hp, hasked⟩
    · rw [not_exists] at hm
      obtain ⟨hvalue, hasked⟩ := firstHolder_of_not_holds hm ms
      rw [hvalue, hasked]
      cases hrest : (firstHolder key ms).value with
      | some p =>
        rw [hrest] at ih
        obtain ⟨above, m', below, rfl, habove, hp, hbelow⟩ := ih
        refine ⟨m :: above, m', below, rfl, List.forall_mem_cons.mpr ⟨hm, habove⟩, hp, ?_⟩
        rw [hbelow]
        rfl
      | none =>
        rw [hrest] at ih
        obtain ⟨hms, hall⟩ := ih
        refine ⟨List.forall_mem_cons.mpr ⟨hm, hms⟩, ?_⟩
        rw [hall]
        rfl

/-- A search asks a part of the sources, in their order. -/
theorem StopsAtHolder.sublist {key : String} {ms : List Mount} {x : Journaled (Option Property)}
    (h : StopsAtHolder key ms x) : x.journal.accesses.Sublist (ms.map (Mount.request key)) := by
  unfold StopsAtHolder at h
  cases hvalue : x.value with
  | some p =>
    rw [hvalue] at h
    obtain ⟨above, m, below, rfl, -, -, hasked⟩ := h
    rw [hasked]
    exact List.Sublist.map _ (by simp)
  | none =>
    rw [hvalue] at h
    rw [h.2]

/-! ## Registered sources -/

/-- A source is registered once. -/
theorem Registry.Sound.nodup_ids_mounts {g : Registry} {σ : Sources} (h : g.Sound σ) :
    ((σ.mounts g.ids).map Mount.id).Nodup := by
  have hmounted : Errand.Mounted (σ.mounts g.ids) σ := by
    intro m hm
    obtain ⟨id, -, hid⟩ := List.mem_filterMap.mp hm
    obtain ⟨s, hs, rfl⟩ := Option.map_eq_some_iff.mp hid
    exact hs
  have hnames : (σ.mounts g.ids).map Mount.name = g.names :=
    h.map_name_mounts (List.Subset.refl _)
  exact nodup_ids hmounted (hnames ▸ h.nodup_names)

namespace View

/-- Under a policy that overrides a key resolves to the last of all candidates, which is what the
overriding policy makes of them from the lowest to the highest. For it the sources are asked from
the top down as far as the first that holds a property, and none below it. In a configuration this
is the order of precedence, and no source is asked twice. -/
theorem resolve_stops_at_holder :
    (∀ (v : View) (key : String), v.combination.overrides = true →
      (v.resolve key).value = Combination.overriding.combine (candidates key v.sources).value ∧
      (v.resolve key).value = (candidates key v.sources).value.getLast? ∧
      StopsAtHolder key v.sources.reverse (v.resolve key)) ∧
    ∀ (c : Configuration) (σ : Sources), c.Reachable σ →
      (c.view σ).sources.reverse.map Mount.name = c.registry.precedence.map (·.name) ∧
      (c.combination.overrides = true →
        ∀ key, ((c.view σ).resolve key).journal.accesses.Nodup) := by
  have hsearch : ∀ (v : View) (key : String), v.combination.overrides = true →
      v.resolve key = firstHolder key v.sources.reverse := by
    intro v key hover
    rw [resolve, if_pos hover]
  refine ⟨?_, ?_⟩
  · intro v key hover
    have hlast : (v.resolve key).value = (candidates key v.sources).value.getLast? := by
      rw [hsearch v key hover, value_firstHolder, value_candidates, List.getLast?_filterMap]
    refine ⟨?_, hlast, ?_⟩
    · rw [hlast, Combination.lawful_overriding.combine_eq_getLast? rfl]
    · rw [hsearch v key hover]
      exact stopsAtHolder_firstHolder key v.sources.reverse
  · intro c σ hreachable
    have hsound := hreachable.sound
    have hnames : (c.view σ).sources.map Mount.name = c.registry.ranks.map (·.name) :=
      hsound.map_name_mounts (List.Subset.refl _)
    refine ⟨?_, ?_⟩
    · rw [List.map_reverse, hnames, Registry.precedence, List.map_reverse]
    · intro hover key
      rw [hsearch (c.view σ) key hover]
      have hids : ((c.view σ).sources.reverse.map Mount.id).Nodup := by
        rw [List.map_reverse, List.nodup_reverse]
        exact hsound.nodup_ids_mounts
      have hasked : ((c.view σ).sources.reverse.map (Mount.request key)).Nodup := by
        refine List.Nodup.of_map Prod.fst ?_
        rw [List.map_map]
        exact hids
      exact (stopsAtHolder_firstHolder key (c.view σ).sources.reverse).sublist.nodup hasked

/-- A source that fails is passed over, and one that holds a property without a text and cannot be
listed ends the search above the source that has a text. -/
theorem resolve_stops_at_holder_of_null :
    let σ : Sources :=
      ⟨#[.memory { name := "app", entries := .ofList [("k", "1")] },
        .custom { name := "vault", ordinal := 5, scannable := false,
                  content := .ofList [("k", .null "k" "vault")] },
        .custom { name := "down", ordinal := 9, get := fun _ _ => .error (.source "down" "gone") }]⟩
    let c : Configuration :=
      { registry := (Registry.empty.withSources (σ.mounts [0, 1, 2])).value }
    let found := (c.view σ).resolve "k"
    found.value = Combination.overriding.combine (candidates "k" (c.view σ).sources).value ∧
    found.value = (candidates "k" (c.view σ).sources).value.getLast? ∧
    StopsAtHolder "k" (c.view σ).sources.reverse found ∧
    (c.view σ).sources.reverse.map Mount.name = c.registry.precedence.map (·.name) ∧
    found.journal.accesses.Nodup ∧
    found.value = some (.null "k" "vault") ∧
    found.journal.accesses = [(2, .get "k"), (1, .get "k")] := by
  intro σ c found
  have hc : c.Reachable σ := by
    refine .build (b := { sources := σ.mounts [0, 1, 2] }) ?_ rfl
    simp [σ, Sources.mounts, Sources.mount?, Sources.get?, Sources.Keeps, Mount.name]
  obtain ⟨hcombine, hlast, hstops⟩ := resolve_stops_at_holder.1 (c.view σ) "k" rfl
  obtain ⟨hnames, honce⟩ := resolve_stops_at_holder.2 c σ hc
  exact ⟨hcombine, hlast, hstops, hnames, honce rfl "k", by decide +kernel, by decide +kernel⟩

end View

end LayeredConfig
