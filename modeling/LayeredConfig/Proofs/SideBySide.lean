import LayeredConfig.Journal
import LayeredConfig.StringMap.Lemmas
import Mathlib.Data.List.Forall2

/-!
# Side by side

Relations between the values of two maps or of two journaled computations, carried over
to the maps and to the computations. Two computations are related if they give related
values and write the same journal, so that a reader of journals cannot tell them apart.
-/
namespace LayeredConfig

theorem rel_option_map {α β γ δ : Type} {R : α → β → Prop} {S : γ → δ → Prop} {f : α → γ}
    {g : β → δ} {a : Option α} {b : Option β} (h : Option.Rel R a b)
    (hfg : ∀ {a b}, R a b → S (f a) (g b)) : Option.Rel S (a.map f) (b.map g) := by
  cases h with
  | some hab => exact .some (hfg hab)
  | none => exact .none

theorem eq_of_option_rel {α : Type} {a b : Option α} (h : Option.Rel Eq a b) : a = b := by
  cases h with
  | some hab => rw [hab]
  | none => rfl

namespace StringMap

variable {α β : Type} {R : String → α → β → Prop} {m : StringMap α} {n : StringMap β}

/-- The maps hold the same keys, and related values under each. -/
def Rel (R : String → α → β → Prop) (m : StringMap α) (n : StringMap β) : Prop :=
  ∀ key, Option.Rel (R key) (m.get? key) (n.get? key)

theorem Rel.empty : Rel R ∅ ∅ := fun _ => .none

theorem Rel.insert (h : Rel R m n) {key : String} {a : α} {b : β} (hab : R key a b) :
    Rel R (m.insert key a) (n.insert key b) := by
  intro k
  rw [get?_insert, get?_insert]
  by_cases hk : k = key
  · subst hk
    rw [if_pos rfl, if_pos rfl]
    exact .some hab
  · rw [if_neg hk, if_neg hk]
    exact h k

theorem Rel.insertAll (h : Rel R m n) {es : List (String × α)} {es' : List (String × β)}
    (hes : List.Forall₂ (fun e e' => e.1 = e'.1 ∧ R e.1 e.2 e'.2) es es') :
    Rel R (m.insertAll es) (n.insertAll es') := by
  unfold StringMap.insertAll
  induction hes generalizing m n with
  | nil => exact h
  | cons he _ ih =>
    obtain ⟨hkey, hab⟩ := he
    rw [List.foldl_cons, List.foldl_cons, ← hkey]
    exact ih (h.insert hab)

theorem Rel.map {γ δ : Type} {S : String → γ → δ → Prop} {f : String → α → γ}
    {g : String → β → δ} (h : Rel R m n) (hfg : ∀ {key a b}, R key a b → S key (f key a) (g key b)) :
    Rel S (m.map f) (n.map g) := by
  intro key
  rw [get?_map, get?_map]
  exact rel_option_map (h key) hfg

theorem Rel.eq {m n : StringMap α} (h : Rel (fun _ => Eq) m n) : m = n :=
  ext_get? fun key => eq_of_option_rel (h key)

theorem Rel.keys_eq (h : Rel R m n) : m.keys = n.keys := by
  have hsets : m.keySet = n.keySet := Rel.eq (h.map fun _ => rfl)
  have hkeys : m.keySet.keys = n.keySet.keys := congrArg keys hsets
  simpa [keySet, keys, StringMap.map, Function.comp_def] using hkeys

/-- Walks over related maps meet related entries. -/
theorem Rel.forall₂_entries (h : Rel R m n) :
    List.Forall₂ (fun e e' => e.1 = e'.1 ∧ R e.1 e.2 e'.2) m.entries n.entries := by
  have hkeys : List.Forall₂ (fun e e' => e.1 = e'.1) m.entries n.entries := by
    have heq : List.Forall₂ Eq m.keys n.keys := List.forall₂_eq_eq_eq ▸ h.keys_eq
    rwa [keys, keys, List.forall₂_map_left_iff, List.forall₂_map_right_iff] at heq
  rw [List.forall₂_iff_get] at hkeys ⊢
  refine ⟨hkeys.1, fun i hi hi' => ?_⟩
  have hkey := hkeys.2 i hi hi'
  have hleft : m.get? (m.entries.get ⟨i, hi⟩).1 = some (m.entries.get ⟨i, hi⟩).2 :=
    mem_entries_iff.mp (List.get_mem ..)
  have hright : n.get? (n.entries.get ⟨i, hi'⟩).1 = some (n.entries.get ⟨i, hi'⟩).2 :=
    mem_entries_iff.mp (List.get_mem ..)
  have hrel := h (m.entries.get ⟨i, hi⟩).1
  rw [hleft, hkey, hright, ← hkey] at hrel
  cases hrel with
  | some hab => exact ⟨hkey, hab⟩

end StringMap

namespace Journaled

variable {α β γ δ : Type} {R : α → β → Prop} {S : γ → δ → Prop}

structure Rel (R : α → β → Prop) (x : Journaled α) (y : Journaled β) : Prop where
  value : R x.value y.value
  journal : x.journal = y.journal

theorem Rel.eq {x y : Journaled α} (h : Rel Eq x y) : x = y :=
  ext_iff.mpr ⟨h.value, h.journal⟩

theorem Rel.of_eq {x y : Journaled α} (h : x = y) : Rel Eq x y :=
  h ▸ ⟨rfl, rfl⟩

theorem Rel.pure {a : α} {b : β} (h : R a b) :
    Rel R (Pure.pure a : Journaled α) (Pure.pure b : Journaled β) :=
  ⟨h, rfl⟩

theorem Rel.bind {x : Journaled α} {y : Journaled β} {f : α → Journaled γ} {g : β → Journaled δ}
    (h : Rel R x y) (hfg : ∀ {a b}, R a b → Rel S (f a) (g b)) : Rel S (x >>= f) (y >>= g) := by
  have hnext := hfg h.value
  exact ⟨hnext.value, by rw [journal_bind, journal_bind, h.journal, hnext.journal]⟩

theorem Rel.map {x : Journaled α} {y : Journaled β} {f : α → γ} {g : β → δ} (h : Rel R x y)
    (hfg : ∀ {a b}, R a b → S (f a) (g b)) : Rel S (f <$> x) (g <$> y) := by
  refine ⟨hfg h.value, ?_⟩
  rw [journal_map, journal_map, h.journal]

theorem Rel.foldlM {as : List α} {bs : List β} {f : γ → α → Journaled γ} {g : δ → β → Journaled δ}
    (h : List.Forall₂ R as bs) (hfg : ∀ {c d a b}, S c d → R a b → Rel S (f c a) (g d b))
    {c : γ} {d : δ} (hcd : S c d) : Rel S (as.foldlM f c) (bs.foldlM g d) := by
  induction h generalizing c d with
  | nil => exact .pure hcd
  | cons hab _ ih =>
    rw [List.foldlM_cons, List.foldlM_cons]
    exact (hfg hcd hab).bind ih

end Journaled

end LayeredConfig
