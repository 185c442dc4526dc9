import LayeredConfig.StringMap

/-!
# Lookups in string maps

What each operation does to the lookups of a map. A map is determined by its lookups,
so these equations say all there is to say about the operations.
-/
namespace LayeredConfig.StringMap

variable {α β : Type}

theorem ne_of_lt {a b : String} (h : a < b) : a ≠ b := fun hab =>
  String.lt_irrefl b (hab ▸ h)

/-! ## Entries -/

theorem lookup_cons (k : String) (e : String × α) (es : List (String × α)) :
    (e :: es).lookup k = if k = e.1 then some e.2 else es.lookup k := by
  rw [List.lookup_cons]
  by_cases h : k = e.1
  · simp [h]
  · rw [beq_eq_false_iff_ne.mpr h, if_neg h]

theorem mem_of_lookup {key : String} {value : α} {es : List (String × α)}
    (h : es.lookup key = some value) : (key, value) ∈ es := by
  induction es with
  | nil => simp at h
  | cons e es ih =>
    rw [lookup_cons] at h
    split at h
    · next hkey =>
      cases h
      exact hkey ▸ List.mem_cons_self
    · exact List.mem_cons_of_mem _ (ih h)

theorem lookup_of_mem {key : String} {value : α} {es : List (String × α)}
    (ordered : es.Pairwise fun a b => a.1 < b.1) (h : (key, value) ∈ es) :
    es.lookup key = some value := by
  induction es with
  | nil => simp at h
  | cons e es ih =>
    have he := List.pairwise_cons.mp ordered
    rw [lookup_cons]
    rcases List.mem_cons.mp h with rfl | h
    · simp
    · rw [if_neg (ne_of_lt (he.1 _ h)).symm, ih he.2 h]

theorem mem_entries_iff {m : StringMap α} {key : String} {value : α} :
    (key, value) ∈ m.entries ↔ m.get? key = some value :=
  ⟨lookup_of_mem m.ordered, mem_of_lookup⟩

theorem mem_keys_iff {m : StringMap α} {key : String} : key ∈ m.keys ↔ (m.get? key).isSome := by
  simp only [keys, List.mem_map, Option.isSome_iff_exists, ← mem_entries_iff]
  exact ⟨fun ⟨⟨_, value⟩, h, rfl⟩ => ⟨value, h⟩, fun ⟨value, h⟩ => ⟨(key, value), h, rfl⟩⟩

theorem nodup_entries (m : StringMap α) : m.entries.Nodup :=
  m.ordered.imp fun h heq => ne_of_lt h (congrArg _ heq)

theorem pairwise_keys (m : StringMap α) : m.keys.Pairwise (· < ·) :=
  List.pairwise_map.mpr m.ordered

theorem nodup_keys (m : StringMap α) : m.keys.Nodup :=
  m.pairwise_keys.imp ne_of_lt

theorem length_keys (m : StringMap α) : m.keys.length = m.size :=
  List.length_map _

/-- Two maps with the same lookups are the same map. -/
theorem ext_get? {a b : StringMap α} (h : ∀ key, a.get? key = b.get? key) : a = b := by
  have hp : a.entries.Perm b.entries :=
    (List.perm_ext_iff_of_nodup a.nodup_entries b.nodup_entries).mpr fun ⟨key, value⟩ => by
      rw [mem_entries_iff, mem_entries_iff, h key]
  have he : a.entries = b.entries :=
    hp.eq_of_pairwise (fun _ _ _ _ hxy hyx => absurd hyx (String.lt_asymm hxy)) a.ordered b.ordered
  cases a
  cases b
  cases he
  rfl

/-! ## Operations -/

@[simp] theorem get?_empty (key : String) : (∅ : StringMap α).get? key = none := rfl

theorem lookup_insertEntry (key : String) (value : α) (es : List (String × α)) (k : String) :
    (insertEntry key value es).lookup k = if k = key then some value else es.lookup k := by
  induction es with
  | nil => rw [insertEntry, lookup_cons]
  | cons e es ih =>
    rw [insertEntry]
    split
    · rw [lookup_cons]
    · split
      · next heq => rw [lookup_cons, lookup_cons, ← heq]; split <;> rfl
      · next hne =>
        rw [lookup_cons, lookup_cons, ih]
        by_cases hk : k = e.1
        · rw [if_pos hk, if_pos hk, if_neg fun h : k = key => hne (h ▸ hk)]
        · rw [if_neg hk, if_neg hk]

theorem get?_insert (m : StringMap α) (key : String) (value : α) (k : String) :
    (m.insert key value).get? k = if k = key then some value else m.get? k :=
  lookup_insertEntry key value m.entries k

theorem get?_filter (m : StringMap α) (p : String → α → Bool) (key : String) :
    (m.filter p).get? key = (m.get? key).filter (p key) := by
  ext value
  rw [← mem_entries_iff, Option.filter_eq_some_iff, ← mem_entries_iff]
  simp [filter]

theorem get?_filter_keys (m : StringMap α) (p : String → Bool) (key : String) :
    (m.filter fun k _ => p k).get? key = if p key then m.get? key else none := by
  rw [get?_filter]
  cases m.get? key <;> cases p key <;> rfl

theorem get?_erase (m : StringMap α) (key k : String) :
    (m.erase key).get? k = if k = key then none else m.get? k := by
  rw [erase, get?_filter]
  by_cases h : k = key
  · simp [h]
  · rw [if_neg h, bne_iff_ne.mpr h]
    cases m.get? k <;> rfl

theorem erase_insert (m : StringMap α) (key : String) (value : α) :
    (m.insert key value).erase key = m.erase key := by
  apply ext_get?
  intro k
  simp only [get?_erase, get?_insert]
  split <;> rfl

theorem erase_eq_self {m : StringMap α} {key : String} (h : m.get? key = none) :
    m.erase key = m := by
  apply ext_get?
  intro k
  rw [get?_erase]
  split
  · next hk => exact hk ▸ h.symm
  · rfl

/-- A map has the entry of a key, and what stays when the key is erased. -/
theorem entries_perm {m : StringMap α} {key : String} {value : α} (h : m.get? key = some value) :
    m.entries.Perm ((key, value) :: (m.erase key).entries) := by
  have herased : (key, value) ∉ (m.erase key).entries := by
    rw [mem_entries_iff, get?_erase, if_pos rfl]
    nofun
  refine (List.perm_ext_iff_of_nodup m.nodup_entries
    (List.nodup_cons.mpr ⟨herased, (m.erase key).nodup_entries⟩)).mpr fun ⟨k, v⟩ => ?_
  rw [List.mem_cons, mem_entries_iff, mem_entries_iff, get?_erase]
  by_cases hk : k = key
  · subst hk
    simp [h, eq_comm]
  · simp [hk]

theorem get?_filterMap (f : String → α → Option β) (m : StringMap α) (key : String) :
    (m.filterMap f).get? key = (m.get? key).bind (f key) := by
  ext value
  rw [← mem_entries_iff, Option.bind_eq_some_iff]
  simp only [filterMap, List.mem_filterMap, Option.map_eq_some_iff]
  constructor
  · rintro ⟨⟨_, a⟩, ha, b, hb, he⟩
    cases he
    exact ⟨a, mem_entries_iff.mp ha, hb⟩
  · rintro ⟨a, ha, hb⟩
    exact ⟨(key, a), mem_entries_iff.mpr ha, value, hb, rfl⟩

theorem get?_map (f : String → α → β) (m : StringMap α) (key : String) :
    (m.map f).get? key = (m.get? key).map (f key) := by
  ext value
  rw [← mem_entries_iff, Option.map_eq_some_iff]
  simp only [map, List.mem_map]
  constructor
  · rintro ⟨⟨_, a⟩, ha, he⟩
    cases he
    exact ⟨a, mem_entries_iff.mp ha, rfl⟩
  · rintro ⟨a, ha, he⟩
    exact ⟨(key, a), mem_entries_iff.mpr ha, by rw [← he]⟩

theorem get?_eraseAll (m : StringMap α) (keys : List String) (key : String) :
    (m.eraseAll keys).get? key = if key ∈ keys then none else m.get? key := by
  unfold eraseAll
  induction keys generalizing m with
  | nil => simp
  | cons k ks ih =>
    rw [List.foldl_cons, ih, get?_erase]
    by_cases hlater : key ∈ ks
    · simp [hlater]
    · by_cases hk : key = k <;> simp [hlater, hk]

/-! ## Walks -/

/-- A walk over a map whose every step touches the key of its entry alone, and there does
what `g` does to what was there before. -/
theorem get?_foldl_entries {step : StringMap β → String × α → StringMap β}
    {g : String → Option β → α → Option β}
    (hstep : ∀ m e key, (step m e).get? key
      = if key = e.1 then g key (m.get? key) e.2 else m.get? key)
    (listed : StringMap α) (m : StringMap β) (key : String) :
    (listed.entries.foldl step m).get? key
      = match listed.get? key with
        | some value => g key (m.get? key) value
        | none => m.get? key := by
  obtain ⟨entries, ordered⟩ := listed
  change _ = match entries.lookup key with
    | some value => g key (m.get? key) value
    | none => m.get? key
  dsimp only
  induction entries generalizing m with
  | nil => rfl
  | cons e es ih =>
    have he := List.pairwise_cons.mp ordered
    rw [List.foldl_cons, ih _ he.2, lookup_cons, hstep]
    by_cases hkey : key = e.1
    · -- No later entry has the key of this one.
      have hlater : es.lookup key = none := by
        cases hlookup : es.lookup key with
        | none => rfl
        | some value => exact absurd hkey (ne_of_lt (he.1 _ (mem_of_lookup hlookup))).symm
      rw [hlater, if_pos hkey, if_pos hkey]
    · rw [if_neg hkey, if_neg hkey]

theorem get?_insertAll (m : StringMap α) (es : List (String × α)) (key : String) :
    (m.insertAll es).get? key = (es.reverse.lookup key).or (m.get? key) := by
  unfold insertAll
  induction es generalizing m with
  | nil => rfl
  | cons e es ih =>
    rw [List.foldl_cons, ih, get?_insert, List.reverse_cons, List.lookup_append, lookup_cons]
    cases es.reverse.lookup key with
    | some value => rfl
    | none =>
      by_cases hkey : key = e.1
      · rw [if_pos hkey, if_pos hkey]
        rfl
      · rw [if_neg hkey, if_neg hkey]
        rfl

/-- Of two maps, the one that is taken into the other says the last word. -/
theorem get?_insertAll_entries (m listed : StringMap α) (key : String) :
    (m.insertAll listed.entries).get? key = (listed.get? key).or (m.get? key) := by
  have hwalk := get?_foldl_entries (g := fun _ _ value => some value)
    (fun m e key => get?_insert m e.1 e.2 key) listed m key
  rw [insertAll, hwalk]
  cases listed.get? key <;> rfl

/-- A search through a map ends at the least key under which there is something to find. -/
theorem findSome?_entries_eq_some {f : String × α → Option β} {m : StringMap α} {found : β} :
    m.entries.findSome? f = some found ↔
      ∃ key value, m.get? key = some value ∧ f (key, value) = some found ∧
        ∀ k < key, ∀ other, m.get? k = some other → f (k, other) = none := by
  have hordered := m.ordered
  rw [List.findSome?_eq_some_iff]
  constructor
  · rintro ⟨front, ⟨key, value⟩, back, hentries, hfound, hfront⟩
    refine ⟨key, value, mem_entries_iff.mp (by simp [hentries]), hfound, ?_⟩
    intro k hk other hother
    have hmem := mem_entries_iff.mpr hother
    rw [hentries] at hmem hordered
    obtain ⟨-, hback, -⟩ := List.pairwise_append.mp hordered
    rcases List.mem_append.mp hmem with hmem | hmem
    · exact hfront _ hmem
    · rcases List.mem_cons.mp hmem with heq | hmem
      · cases heq
        exact absurd hk (String.lt_irrefl _)
      · exact absurd hk (String.lt_asymm ((List.pairwise_cons.mp hback).1 _ hmem))
  · rintro ⟨key, value, hvalue, hfound, hleast⟩
    obtain ⟨front, back, hentries⟩ := List.append_of_mem (mem_entries_iff.mpr hvalue)
    refine ⟨front, (key, value), back, hentries, hfound, fun ⟨k, other⟩ hk => ?_⟩
    have hother := mem_entries_iff.mp (hentries ▸ List.mem_append_left _ hk)
    rw [hentries] at hordered
    exact hleast k ((List.pairwise_append.mp hordered).2.2 _ hk _ List.mem_cons_self) other hother

theorem ofList_entries (m : StringMap α) : ofList m.entries = m := by
  apply ext_get?
  intro key
  rw [ofList, get?_insertAll_entries]
  exact Option.or_none

/-- A list that says one thing at most of each key makes a map that says what the list
says. -/
theorem get?_ofList_eq_some {es : List (String × α)} {key : String}
    (hone : ∀ {a b}, (key, a) ∈ es → (key, b) ∈ es → a = b) {value : α} :
    (ofList es).get? key = some value ↔ (key, value) ∈ es := by
  have hget : (ofList es).get? key = es.reverse.lookup key := by
    rw [ofList, get?_insertAll]
    exact Option.or_none
  rw [hget]
  constructor
  · exact fun h => List.mem_reverse.mp (mem_of_lookup h)
  · intro hmem
    have hsome : (es.reverse.lookup key).isSome :=
      List.lookup_isSome_iff.mpr ⟨(key, value), List.mem_reverse.mpr hmem, by simp⟩
    obtain ⟨found, hfound⟩ := Option.isSome_iff_exists.mp hsome
    rw [hfound, hone (List.mem_reverse.mp (mem_of_lookup hfound)) hmem]

end LayeredConfig.StringMap
