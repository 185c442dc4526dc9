/-!
# Arranging a list

Insertion into an arranged list: an element goes before the first one that it may
precede, so that elements of equal standing keep their order.
-/
namespace LayeredConfig

variable {α : Type}

def place (le : α → α → Bool) (a : α) : List α → List α
  | [] => [a]
  | b :: bs => if le a b then a :: b :: bs else b :: place le a bs

theorem place_perm (le : α → α → Bool) (a : α) (as : List α) : (place le a as).Perm (a :: as) := by
  induction as with
  | nil => exact .refl _
  | cons b bs ih =>
    rw [place]
    split
    · exact .refl _
    · exact (ih.cons b).trans (.swap a b bs)

/-- An arranged list stays arranged, if the element stands in the order with every other. -/
theorem pairwise_place {le : α → α → Bool} {a : α} {as : List α}
    (htrans : ∀ {b c d}, le b c → le c d → le b d) (htotal : ∀ b ∈ as, le a b ∨ le b a)
    (h : as.Pairwise (le · ·)) : (place le a as).Pairwise (le · ·) := by
  induction as with
  | nil => simp [place]
  | cons b bs ih =>
    obtain ⟨hb, hbs⟩ := List.pairwise_cons.mp h
    rw [place]
    split
    · next hle =>
      refine List.pairwise_cons.mpr ⟨?_, h⟩
      intro c hc
      rcases List.mem_cons.mp hc with rfl | hc
      · exact hle
      · exact htrans hle (hb c hc)
    · next hle =>
      have hba : le b a := (htotal b List.mem_cons_self).resolve_left hle
      refine List.pairwise_cons.mpr ⟨?_, ih (fun c hc => htotal c (List.mem_cons_of_mem b hc)) hbs⟩
      intro c hc
      rcases List.mem_cons.mp ((place_perm le a bs).mem_iff.mp hc) with rfl | hc
      · exact hba
      · exact hb c hc

def arrange (le : α → α → Bool) (as : List α) : List α :=
  as.foldr (place le) []

theorem arrange_perm (le : α → α → Bool) (as : List α) : (arrange le as).Perm as := by
  induction as with
  | nil => exact .refl _
  | cons a as ih => exact (place_perm le a (arrange le as)).trans (ih.cons a)

theorem pairwise_arrange (le : α → α → Bool) (htrans : ∀ {a b c}, le a b → le b c → le a c)
    (htotal : ∀ a b, le a b ∨ le b a) (as : List α) : (arrange le as).Pairwise (le · ·) := by
  induction as with
  | nil => exact .nil
  | cons a as ih => exact pairwise_place htrans (fun b _ => htotal a b) ih

end LayeredConfig
