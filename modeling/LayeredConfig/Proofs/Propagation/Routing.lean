import LayeredConfig.Proofs.Propagation.Errand

/-!
# Routing key by key

A key goes to the first source that has a property for it, or else to the fallback. The
routing works with places in a list and collects each part key by key; what it comes to is
that every source gets the request cut down to the keys whose recipient it is.
-/
namespace LayeredConfig

/-! ## Recipients -/

/-- The source has a property for the key, be it one without a text, and does not fail. -/
def Mount.holds (m : Mount) (key : String) : Bool :=
  match m.source.get key with
  | .ok (some _) => true
  | _ => false

/-- The source that a key goes to, if there is one. -/
def recipient? (targets : List Mount) (fallback key : String) : Option Mount :=
  targets.find? (·.holds key) <|> targets.find? (·.name == fallback)

/-- The failure of a key that has no recipient. -/
def unroutable (fallback key : String) : Failure :=
  ⟨fallback, s!"no source holds '{key}' and the default source is not registered"⟩

/-- The request cut down to some keys. A key that it sets and removes is set. -/
def ChangeRequest.restrict (r : ChangeRequest) (p : String → Bool) : ChangeRequest :=
  { r with
    puts := r.puts.filter fun key _ => p key
    removes := r.removes.filter fun key _ => p key && !r.puts.contains key }

/-! ## Looking for holders -/

theorem Mount.isSome_find (m : Mount) (key : String) : (m.find key).value.isSome = m.holds key := by
  rw [find, Mount.get, holds]
  cases m.source.get key with
  | error e => rfl
  | ok found => cases found <;> rfl

theorem Mount.changes_find (m : Mount) (key : String) : (m.find key).journal.changes = [] := by
  rw [find, Mount.get]
  cases m.source.get key <;> rfl

theorem value_firstHolderIndex (key : String) (ms : List Mount) :
    (firstHolderIndex key ms).value = ms.findIdx? (·.holds key) := by
  induction ms with
  | nil => rfl
  | cons m ms ih =>
    have hfind := m.isSome_find key
    rw [firstHolderIndex, Journaled.value_bind, List.findIdx?_cons]
    cases hfound : (m.find key).value with
    | some p => simp [← hfind, hfound]
    | none => simp [← hfind, hfound, ih]

theorem changes_firstHolderIndex (key : String) (ms : List Mount) :
    (firstHolderIndex key ms).journal.changes = [] := by
  induction ms with
  | nil => rfl
  | cons m ms ih =>
    rw [firstHolderIndex, Journaled.journal_bind, Journal.changes_append, m.changes_find]
    cases (m.find key).value with
    | some p => rfl
    | none => simpa using ih

/-! ## Places -/

/-- The place of the source that a key goes to. -/
def place? (targets : List Mount) (fallback key : String) : Option Nat :=
  targets.findIdx? (·.holds key) <|> targets.findIdx? (·.name == fallback)

theorem find?_eq_bind_findIdx? {α : Type} (p : α → Bool) (as : List α) :
    as.find? p = (as.findIdx? p).bind (as[·]?) := by
  induction as with
  | nil => rfl
  | cons a as ih =>
    rw [List.find?_cons, List.findIdx?_cons]
    cases p a with
    | true => rfl
    | false =>
      rw [ih]
      cases as.findIdx? p <;> rfl

theorem recipient?_eq (targets : List Mount) (fallback key : String) :
    recipient? targets fallback key = (place? targets fallback key).bind (targets[·]?) := by
  unfold recipient? place?
  rw [find?_eq_bind_findIdx?, find?_eq_bind_findIdx?]
  cases hholder : targets.findIdx? (·.holds key) with
  | none => rfl
  | some i =>
    obtain ⟨hlt, _⟩ := List.findIdx?_eq_some_iff_getElem.mp hholder
    simp [hlt]

theorem lt_length_of_place? {targets : List Mount} {fallback key : String} {i : Nat}
    (h : place? targets fallback key = some i) : i < targets.length := by
  unfold place? at h
  cases hholder : targets.findIdx? (·.holds key) with
  | some j =>
    rw [hholder] at h
    cases h
    exact (List.findIdx?_eq_some_iff_getElem.mp hholder).1
  | none =>
    rw [hholder] at h
    exact (List.findIdx?_eq_some_iff_getElem.mp h).1

theorem isNone_recipient? (targets : List Mount) (fallback key : String) :
    (recipient? targets fallback key).isNone = (place? targets fallback key).isNone := by
  rw [recipient?_eq]
  cases hplace : place? targets fallback key with
  | none => rfl
  | some i => simp [lt_length_of_place? hplace]

/-- Among sources of different names, the place of a key is the place of its recipient. -/
theorem place?_beq_some {targets : List Mount} (hnames : (targets.map Mount.name).Nodup)
    {m : Mount} {i : Nat} (hm : targets[i]? = some m) (fallback key : String) :
    (place? targets fallback key == some i)
      = (recipient? targets fallback key).any (·.name == m.name) := by
  rw [recipient?_eq]
  cases hplace : place? targets fallback key with
  | none => rfl
  | some j =>
    have hlt := lt_length_of_place? hplace
    have hinj := List.getElem?_inj (i := j) (j := i) (by simpa using hlt) hnames
    simp only [List.getElem?_map, hm, List.getElem?_eq_getElem hlt, Option.map_some,
      Option.some.injEq] at hinj
    rw [Bool.eq_iff_iff]
    simp [hlt, hinj]

/-! ## Routes -/

theorem value_route (targets : List Mount) (fallback : String) (keys : List String) (o : Outcome) :
    (route targets fallback keys o).value
      = (keys.filterMap fun key => (place? targets fallback key).map (key, ·),
        { o with
          failures := o.failures
            ++ (keys.filter fun key => (recipient? targets fallback key).isNone).map
              (unroutable fallback) }) := by
  induction keys generalizing o with
  | nil => simp [route]
  | cons key keys ih =>
    simp only [route, Journaled.value_bind, value_firstHolderIndex, List.filterMap_cons,
      List.filter_cons, isNone_recipient?]
    rw [← place?]
    cases place? targets fallback key with
    | some i => simp [ih, isNone_recipient?]
    | none => simp [ih, Outcome.recordFailure, unroutable, isNone_recipient?]

theorem changes_route (targets : List Mount) (fallback : String) (keys : List String)
    (o : Outcome) : (route targets fallback keys o).journal.changes = [] := by
  induction keys generalizing o with
  | nil => rfl
  | cons key keys ih =>
    simp only [route, Journaled.journal_bind, Journal.changes_append, changes_firstHolderIndex,
      List.nil_append]
    split
    · simp [ih]
    · simp [ih, Outcome.recordFailure, Journaled.warn]

/-! ## Parts -/

namespace ChangeRequest

variable (r : ChangeRequest)

/-- What the request says about one key, said to a part of it. -/
def tell (part : ChangeRequest) (key : String) : ChangeRequest :=
  match r.puts.get? key with
  | some value => part.put key value
  | none => part.remove key

theorem get?_puts_tell (part : ChangeRequest) (key k : String) :
    (r.tell part key).puts.get? k = if k = key then r.puts.get? key else part.puts.get? k := by
  unfold tell
  cases r.puts.get? key with
  | some value => exact StringMap.get?_insert ..
  | none => exact StringMap.get?_erase ..

theorem get?_removes_tell (part : ChangeRequest) (key k : String) :
    (r.tell part key).removes.get? k
      = if k = key then (if r.puts.contains key then none else some ())
        else part.removes.get? k := by
  unfold tell StringMap.contains
  cases r.puts.get? key with
  | some value => exact StringMap.get?_erase ..
  | none => exact StringMap.get?_insert ..

/-- A part that is told of some keys says of them what the request says. -/
theorem foldl_tell (part : ChangeRequest) (keys : List String) (k : String) :
    (keys.foldl r.tell part).puts.get? k
        = (if k ∈ keys then r.puts.get? k else part.puts.get? k) ∧
    (keys.foldl r.tell part).removes.get? k
        = (if k ∈ keys then (if r.puts.contains k then none else some ())
          else part.removes.get? k) := by
  induction keys generalizing part with
  | nil => simp
  | cons key keys ih =>
    rw [List.foldl_cons]
    obtain ⟨hputs, hremoves⟩ := ih (r.tell part key)
    rw [hputs, hremoves, get?_puts_tell, get?_removes_tell]
    by_cases hk : k = key
    · subst hk
      simp
    · simp [hk]

theorem foldl_tell_identity (part : ChangeRequest) (keys : List String) :
    (keys.foldl r.tell part).id = part.id ∧
    (keys.foldl r.tell part).createdAt = part.createdAt := by
  induction keys generalizing part with
  | nil => exact ⟨rfl, rfl⟩
  | cons key keys ih =>
    obtain ⟨hid, hcreatedAt⟩ := ih (r.tell part key)
    rw [List.foldl_cons, hid, hcreatedAt]
    unfold tell
    cases r.puts.get? key <;> exact ⟨rfl, rfl⟩

theorem get?_puts_restrict (p : String → Bool) (key : String) :
    (r.restrict p).puts.get? key = if p key then r.puts.get? key else none :=
  StringMap.get?_filter_keys r.puts p key

theorem get?_removes_restrict (p : String → Bool) (key : String) :
    (r.restrict p).removes.get? key
      = if p key && !r.puts.contains key then r.removes.get? key else none :=
  StringMap.get?_filter_keys r.removes (fun k => p k && !r.puts.contains k) key

/-- A part that is told, from empty, of the keys of a kind that the request speaks about. -/
theorem foldl_tell_deriveEmpty {keys : List String} {p : String → Bool}
    (hkeys : ∀ key, key ∈ keys ↔ r.touches key ∧ p key) :
    keys.foldl r.tell r.deriveEmpty = r.restrict p := by
  obtain ⟨hid, hcreatedAt⟩ := r.foldl_tell_identity r.deriveEmpty keys
  have huntold : ∀ k, k ∉ keys → p k = true →
      r.puts.get? k = none ∧ r.removes.get? k = none := by
    intro k hk hp
    cases htouches : r.touches k with
    | true => exact absurd ((hkeys k).mpr ⟨htouches, hp⟩) hk
    | false => exact get?_of_not_touches htouches
  have hputs : (keys.foldl r.tell r.deriveEmpty).puts = (r.restrict p).puts := by
    apply StringMap.ext_get?
    intro k
    rw [(r.foldl_tell r.deriveEmpty keys k).1, get?_puts_restrict]
    by_cases hk : k ∈ keys
    · simp [hk, ((hkeys k).mp hk).2]
    · by_cases hp : p k = true
      · simp [hk, hp, huntold k hk hp, deriveEmpty]
      · simp [hk, hp, deriveEmpty]
  have hremoves : (keys.foldl r.tell r.deriveEmpty).removes = (r.restrict p).removes := by
    apply StringMap.ext_get?
    intro k
    rw [(r.foldl_tell r.deriveEmpty keys k).2, get?_removes_restrict]
    by_cases hk : k ∈ keys
    · obtain ⟨htouches, hp⟩ := (hkeys k).mp hk
      -- A key that is told and not set is removed, for the request speaks about it.
      cases hput : r.puts.contains k with
      | true => simp [hk]
      | false =>
        have hremoved : r.removes.contains k = true := by simpa [touches, hput] using htouches
        obtain ⟨u, hu⟩ := Option.isSome_iff_exists.mp hremoved
        simp [hk, hp, hu]
    · by_cases hp : p k = true
      · simp [hk, hp, huntold k hk hp, deriveEmpty]
      · simp [hk, hp, deriveEmpty]
  cases hpart : keys.foldl r.tell r.deriveEmpty
  rw [hpart] at hid hcreatedAt hputs hremoves
  subst hid hcreatedAt hputs hremoves
  rfl

/-- The part for a place is the request cut down to the keys of that place. -/
theorem part_route (targets : List Mount) (fallback : String) (o : Outcome) (i : Nat) :
    r.part (route targets fallback r.keys o).value.1 i
      = r.restrict fun key => place? targets fallback key == some i := by
  have hkeys : ∀ key, key ∈ ((r.keys.filterMap fun key =>
      (place? targets fallback key).map (key, ·)).filter (·.2 == i)).map (·.1)
        ↔ r.touches key ∧ place? targets fallback key == some i := by
    intro key
    simp only [List.mem_map, List.mem_filter, List.mem_filterMap, Option.map_eq_some_iff,
      ← mem_keys_iff, beq_iff_eq]
    constructor
    · rintro ⟨e, ⟨⟨k, hk, j, hj, rfl⟩, rfl⟩, rfl⟩
      exact ⟨hk, hj⟩
    · rintro ⟨hkey, hi⟩
      exact ⟨(key, i), ⟨⟨key, hkey, i, hi, rfl⟩, rfl⟩, rfl⟩
  rw [value_route, ← r.foldl_tell_deriveEmpty hkeys, List.foldl_map]
  rfl

end ChangeRequest

end LayeredConfig
