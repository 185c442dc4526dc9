import LayeredConfig.Proofs.Source.Content

/-!
# Requests and the intents they collect

A request is built by calls, each of which comes to some settings and removals of single keys. The
request keeps the last of them for each key and forgets their order, and then removes before it
sets. What it makes of a source is nonetheless what they make of it one after the other.
-/
namespace LayeredConfig

/-! ## Intents and calls -/

/-- A single key set or removed. -/
inductive Intent where
  | set (key value : String)
  | unset (key : String)

namespace Intent

def key : Intent → String
  | set key _ => key
  | unset key => key

/-- The intent taken into a request. -/
def collect (r : ChangeRequest) : Intent → ChangeRequest
  | set key value => r.put key value
  | unset key => r.remove key

/-- The intent carried out at once, on the source itself. -/
def carryOut (s : MemorySource) : Intent → MemorySource
  | set key value => s.set key value
  | unset key => (s.unset key).1

end Intent

namespace ChangeRequest

/-- A call by which a request is built. -/
inductive Call where
  | put (key value : String)
  | putAll (entries : List (String × String))
  | remove (key : String)
  | removeAll (keys : List String)

namespace Call

def perform (r : ChangeRequest) : Call → ChangeRequest
  | put key value => r.put key value
  | putAll entries => r.putAll entries
  | remove key => r.remove key
  | removeAll keys => r.removeAll keys

/-- What the call asks for, key by key. -/
def intents : Call → List Intent
  | put key value => [.set key value]
  | putAll entries => entries.map fun e => .set e.1 e.2
  | remove key => [.unset key]
  | removeAll keys => keys.map .unset

theorem perform_eq_foldl (r : ChangeRequest) (call : Call) :
    perform r call = call.intents.foldl Intent.collect r := by
  cases call with
  | put key value => rfl
  | remove key => rfl
  | putAll entries =>
    rw [intents, List.foldl_map]
    rfl
  | removeAll keys =>
    rw [intents, List.foldl_map]
    rfl

theorem foldl_perform (r : ChangeRequest) (calls : List Call) :
    calls.foldl perform r = (calls.flatMap intents).foldl Intent.collect r := by
  have hperform : perform = fun r call => call.intents.foldl Intent.collect r :=
    funext fun r => funext (perform_eq_foldl r)
  rw [List.foldl_flatMap, hperform]

end Call

/-! ## What a request holds -/

/-- No key is both set and removed. -/
def Decided (r : ChangeRequest) : Prop :=
  ∀ key, ¬ (r.puts.contains key ∧ r.removes.contains key)

theorem decided_new (stamp : Stamp) : (new stamp).Decided := fun _ h =>
  Bool.false_ne_true h.1

theorem Decided.collect {r : ChangeRequest} (h : r.Decided) (i : Intent) :
    (i.collect r).Decided := by
  intro key
  have hkey := h key
  cases i with
  | set k value =>
    simp only [Intent.collect, put, StringMap.contains, StringMap.get?_insert,
      StringMap.get?_erase] at hkey ⊢
    split
    · simp
    · exact hkey
  | unset k =>
    simp only [Intent.collect, remove, StringMap.contains, StringMap.get?_insert,
      StringMap.get?_erase] at hkey ⊢
    split
    · simp
    · exact hkey

/-- A request that is decided on each key counts its keys. -/
theorem Decided.size_eq {r : ChangeRequest} (h : r.Decided) : r.size = r.keys.length := by
  have hboth : (r.puts.keys ++ r.removes.keys).Nodup := by
    refine List.nodup_append.mpr ⟨r.puts.nodup_keys, r.removes.nodup_keys, ?_⟩
    rintro key hput _ hremove rfl
    exact h key ⟨StringMap.mem_keys_iff.mp hput, StringMap.mem_keys_iff.mp hremove⟩
  have hperm : r.keys.Perm (r.puts.keys ++ r.removes.keys) := by
    refine (List.perm_ext_iff_of_nodup r.nodup_keys hboth).mpr fun key => ?_
    rw [mem_keys_iff, List.mem_append, StringMap.mem_keys_iff, StringMap.mem_keys_iff, touches,
      Bool.or_eq_true]
    rfl
  rw [hperm.length_eq, List.length_append, StringMap.length_keys, StringMap.length_keys]
  rfl

theorem touches_collect (r : ChangeRequest) (i : Intent) (key : String) :
    (i.collect r).touches key ↔ i.key = key ∨ r.touches key := by
  cases i with
  | set k value =>
    simp only [Intent.collect, Intent.key, put, touches, StringMap.contains, StringMap.get?_insert,
      StringMap.get?_erase, eq_comm (a := k)]
    split
    · next hk => simp [hk]
    · next hk => simp [hk]
  | unset k =>
    simp only [Intent.collect, Intent.key, remove, touches, StringMap.contains,
      StringMap.get?_insert, StringMap.get?_erase, eq_comm (a := k)]
    split
    · next hk => simp [hk]
    · next hk => simp [hk]

/-! ## What a request makes of a content -/

theorem applyTo_put (r : ChangeRequest) (content : StringMap String) (key value : String) :
    (r.put key value).applyTo content = (r.applyTo content).insert key value := by
  apply StringMap.ext_get?
  intro k
  simp only [get?_applyTo, put, StringMap.contains, StringMap.get?_insert, StringMap.get?_erase]
  by_cases hk : k = key
  · simp [hk]
  · simp only [if_neg hk]
    rfl

theorem applyTo_remove (r : ChangeRequest) (content : StringMap String) (key : String) :
    (r.remove key).applyTo content = (r.applyTo content).erase key := by
  apply StringMap.ext_get?
  intro k
  simp only [get?_applyTo, remove, StringMap.contains, StringMap.get?_insert, StringMap.get?_erase]
  by_cases hk : k = key
  · simp [hk]
  · simp only [if_neg hk]
    rfl

/-- An intent that is collected last is carried out last. -/
theorem applyTo_collect (r : ChangeRequest) (s : MemorySource) (i : Intent) :
    ({ s with entries := (i.collect r).applyTo s.entries } : MemorySource)
      = i.carryOut { s with entries := r.applyTo s.entries } := by
  cases i with
  | set key value => rw [Intent.collect, applyTo_put]; rfl
  | unset key => rw [Intent.collect, applyTo_remove]; rfl

/-! ## Rows of intents -/

variable (r : ChangeRequest) (is : List Intent)

theorem Decided.foldl_collect {r : ChangeRequest} (h : r.Decided) (is : List Intent) :
    (is.foldl Intent.collect r).Decided := by
  induction is generalizing r with
  | nil => exact h
  | cons i is ih => exact ih (h.collect i)

theorem touches_foldl_collect (key : String) :
    (is.foldl Intent.collect r).touches key ↔ key ∈ is.map Intent.key ∨ r.touches key := by
  induction is generalizing r with
  | nil => simp
  | cons i is ih =>
    rw [List.foldl_cons, ih, touches_collect, List.map_cons, List.mem_cons, eq_comm (a := key)]
    exact or_left_comm.trans or_assoc.symm

theorem applyTo_foldl_collect (s : MemorySource) :
    ({ s with entries := (is.foldl Intent.collect r).applyTo s.entries } : MemorySource)
      = is.foldl Intent.carryOut { s with entries := r.applyTo s.entries } := by
  induction is generalizing r with
  | nil => rfl
  | cons i is ih => rw [List.foldl_cons, List.foldl_cons, ih, applyTo_collect]

theorem applyTo_new (stamp : Stamp) (content : StringMap String) :
    (new stamp).applyTo content = content := rfl

/-- However calls follow one another, the request that they build makes of a source what their
intents make of it when each is carried out at once. After every row of calls, and so at every
point of a longer one, the request is decided on each key, and its keys are those that the calls
spoke of, each counted once. -/
theorem change_eq_step_by_step (stamp : Stamp) (calls : List Call) {s : MemorySource}
    (hwritable : s.readOnly = false) :
    let r := calls.foldl Call.perform (.new stamp)
    let intents := calls.flatMap Call.intents
    s.change r = .ok (intents.foldl Intent.carryOut s) ∧
    (∀ key, ¬ (r.puts.contains key ∧ r.removes.contains key)) ∧
    r.keys.Pairwise (· < ·) ∧
    (∀ key, key ∈ r.keys ↔ key ∈ intents.map Intent.key) ∧
    (∀ key, r.touches key ↔ key ∈ r.keys) ∧
    r.size = r.keys.length := by
  intro r intents
  have hr : r = intents.foldl Intent.collect (.new stamp) := Call.foldl_perform _ calls
  have hdecided : r.Decided := hr ▸ (decided_new stamp).foldl_collect intents
  refine ⟨?_, hdecided, r.pairwise_keys, fun key => ?_, fun key => (r.mem_keys_iff key).symm,
    hdecided.size_eq⟩
  · rw [MemorySource.change, if_neg (ne_true_of_eq_false hwritable), hr, applyTo_foldl_collect,
      applyTo_new]
  · rw [mem_keys_iff, hr, touches_foldl_collect]
    exact or_iff_left Bool.false_ne_true

/-- A key is set, removed and set again, one is set and then removed, and one that the source does
not have is removed. -/
theorem change_of_interleaving :
    let time : Timestamp :=
      { year := 2024, month := 2, day := 29, hour := 0, minute := 0, second := 0,
        nanosecond := 0, offset := 0 }
    let calls : List Call :=
      [.put "a" "1", .removeAll ["b", "a", "x"], .putAll [("a", "2"), ("c", "3")], .remove "c"]
    let s : MemorySource := { name := "app", entries := .ofList [("b", "8"), ("d", "9")] }
    let r := calls.foldl Call.perform (.new ⟨"r", time⟩)
    s.change r = .ok { s with entries := .ofList [("a", "2"), ("d", "9")] } ∧
    r.keys = ["a", "b", "c", "x"] ∧ r.size = 4 := by
  intro time calls s r
  obtain ⟨hchange, -, -, -, -, hsize⟩ :=
    change_eq_step_by_step ⟨"r", time⟩ calls (s := s) rfl
  refine ⟨hchange.trans (congrArg Except.ok ?_), by decide +kernel, hsize.trans ?_⟩
  · decide +kernel
  · decide +kernel

end ChangeRequest

end LayeredConfig
