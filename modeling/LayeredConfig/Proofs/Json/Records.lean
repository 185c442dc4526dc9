import LayeredConfig.Json.Decode
import LayeredConfig.Proofs.Json.Forms
import LayeredConfig.StringMap.Lemmas

/-!
# Records, lists and maps in JSON

A list or a map is read from what it is written as, wherever this holds of what is in it.
-/
namespace LayeredConfig.Json

variable {α : Type} {write : α → Json} {read : Json → Option α}

theorem mapM_map {β : Type} {f : α → β} {g : β → Option α} {as : List α}
    (h : ∀ a ∈ as, g (f a) = some a) : (as.map f).mapM g = some as := by
  induction as with
  | nil => rfl
  | cons a as ih =>
    rw [List.map_cons, List.mapM_cons, h a List.mem_cons_self,
      ih fun b hb => h b (List.mem_cons_of_mem a hb)]
    rfl

theorem mapM_congr {α β : Type} {f g : α → Option β} {as : List α} (h : ∀ a ∈ as, f a = g a) :
    as.mapM f = as.mapM g := by
  induction as with
  | nil => rfl
  | cons a as ih =>
    rw [List.mapM_cons, List.mapM_cons, h a List.mem_cons_self,
      ih fun b hb => h b (List.mem_cons_of_mem a hb)]

/-! ## Reading what was written -/

theorem count?_int {n : Nat} (h : n < Nat.pow 2 64) : count? (.int n) = some n :=
  if_pos ⟨Int.natCast_nonneg n, h⟩

theorem list?_arr {as : List α} (h : ∀ a ∈ as, read (write a) = some a) :
    list? read (.arr (as.map write)) = some as :=
  mapM_map h

theorem map?_ofMap {m : StringMap α} (h : ∀ e ∈ m.entries, read (write e.2) = some e.2) :
    map? read (ofMap write m) = some m := by
  rw [ofMap, map?, mapM_map]
  · exact congrArg some m.ofList_entries
  · intro e he
    change (read (write e.2)).map _ = some e
    rw [h e he]
    rfl

theorem textMap?_ofTextMap (m : StringMap String) : textMap? (ofTextMap m) = some m :=
  map?_ofMap fun _ _ => rfl

theorem textSet?_ofTexts (set : StringSet) : textSet? (ofTexts set.keys) = some set := by
  have hentries : set.keys.map (·, ()) = set.entries := by
    rw [StringMap.keys, List.map_map]
    exact List.map_id _
  have htexts : list? text? (ofTexts set.keys) = some set.keys := list?_arr fun _ _ => rfl
  rw [textSet?, htexts, Option.map_some, StringSet.ofList, hentries, StringMap.ofList_entries]

/-! ## Plain records -/

theorem plain_ofMap {m : StringMap α} (h : ∀ e ∈ m.entries, Plain (write e.2)) :
    Plain (ofMap write m) := by
  refine .obj fun f hf => ?_
  obtain ⟨e, he, rfl⟩ := List.mem_map.mp hf
  exact h e he

theorem plain_ofTextMap (m : StringMap String) : Plain (ofTextMap m) :=
  plain_ofMap fun _ _ => .scalar (.str _)

theorem plain_ofTexts (texts : List String) : Plain (ofTexts texts) := by
  refine .arr fun j hj => ?_
  obtain ⟨text, -, rfl⟩ := List.mem_map.mp hj
  exact .scalar (.str text)

end LayeredConfig.Json
