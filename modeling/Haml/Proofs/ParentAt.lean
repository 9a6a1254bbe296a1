import Haml.Proofs.Nesting

/-!
# The parent for a width

A line of some width gets a parent that does not depend on the unit as such, but only on the widths
before. `parentAt` is that parent as a function of the width. A line keeps the parents for all
widths up to its own, and becomes the parent for all greater ones; a blank line of a filter becomes
the parent for the widths greater than that of the last line. So two runs that measure with
different units can be compared, as far as a width fits both.
-/

namespace Haml.Nesting

variable {n : Nesting} {node : Node} {v w : Nat}

/-- The width of the last line that is not blank. -/
def width (n : Nesting) : Nat := n.unit * n.level

/-- The parent of a line of some width, if it came next. -/
def parentAt (n : Nesting) (w : Nat) : Nat := (n.moveTo w).parent

/-- Whether a width is a whole number of levels. Without a unit every width is. -/
def Fits (n : Nesting) (w : Nat) : Prop := w % n.unitAt w = 0

/-- A width that is not at fault is a whole number of levels. -/
theorem fits_of_fault? (h : n.fault? w = none) : n.Fits w := (fault?_eq_none_iff.mp h).1

/-- Adding a node does not change the width of the last line. -/
@[simp] theorem width_add (n : Nesting) (node : Node) : (n.add node).width = n.width := rfl

/-- A width that is not at fault is the width after moving to it. -/
theorem width_of_fault? (h : n.fault? w = none) : (n.moveTo w).width = w := width_moveTo h

/-- The width of the last line is a whole number of levels. -/
theorem fits_width (hs : n.Sound) : n.Fits n.width :=
  fits_of_fault? (hs.moveTo_of_eq rfl).1

/-- The present parent is the one for the width of the last line. -/
theorem parentAt_width (hs : n.Sound) : n.parentAt n.width = n.parent := by
  rw [parentAt, width, (hs.moveTo_of_eq rfl).2]

/-- The parent of a line of any width is a node. -/
theorem parentAt_lt (hs : n.Sound) (w : Nat) : n.parentAt w < n.tree.size := by
  rcases (n.moveTo w).parent_cases with ⟨-, hp⟩ | ⟨j, -, hj⟩
  · rw [parentAt, hp]
    exact hs.rooted.size_pos
  · rw [getElem?_moveTo] at hj
    split_ifs at hj
    · exact hs.parents_lt _ (List.mem_of_getElem? hj)
    · rw [parentAt, ← Option.some.inj hj]
      exact hs.last_lt

/-- Two nestings have the same parent for a width if they have the same entry for its level. -/
theorem parentAt_congr {m : Nesting} (hl : m.levelAt w = n.levelAt w)
    (hp : ∀ j, n.levelAt w = j + 1 → (m.moveTo w).parents[j]? = (n.moveTo w).parents[j]?) :
    m.parentAt w = n.parentAt w := by
  rcases (m.moveTo w).parent_cases with ⟨hm, hp₁⟩ | ⟨j, hm, hp₁⟩ <;>
    rcases (n.moveTo w).parent_cases with ⟨hn, hp₂⟩ | ⟨i, hn, hp₂⟩ <;>
    rw [level_moveTo] at hm hn
  · rw [parentAt, parentAt, hp₁, hp₂]
  · omega
  · omega
  · obtain rfl : i = j := by omega
    rw [hp i hn] at hp₁
    exact Option.some.inj (hp₁.symm.trans hp₂)

/-- A width greater than that of the last line leads to the last node. -/
theorem parentAt_of_width_lt (hs : n.Sound) (hf : n.Fits w) (h : n.width < w) :
    n.parentAt w = n.last := by
  have hlevel : n.level < n.levelAt w := (hs.mul_lt_iff le_rfl hf).mp h
  rcases (n.moveTo w).parent_cases with ⟨hl, -⟩ | ⟨j, hl, hj⟩
  · rw [level_moveTo] at hl
    omega
  · rw [level_moveTo] at hl
    rw [getElem?_moveTo, if_pos (by omega), if_neg (by omega)] at hj
    exact (Option.some.inj hj).symm

/-- A node changes no parent for the widths up to that of the last line. -/
theorem parentAt_add (hs : n.Sound) (hf : n.Fits w) (h : w ≤ n.width) :
    (n.add node).parentAt w = n.parentAt w := by
  have hlevel : ¬n.level < n.levelAt w := fun hlt =>
    absurd ((hs.mul_lt_iff le_rfl hf).mpr hlt) (Nat.not_lt.mpr h)
  refine parentAt_congr rfl fun j hj => ?_
  have hsame : (n.add node).levelAt w = n.levelAt w := rfl
  have hparents : (n.add node).level = n.level := rfl
  have hold : j < n.level := by omega
  have hnew : j < n.levelAt w := by omega
  simp only [getElem?_moveTo, hsame, hparents, hold, hnew, if_true]
  rfl

/-- A width that is a whole number of levels after a line was one before it. -/
theorem Fits.of_moveTo (h : (n.moveTo v).Fits w) : n.Fits w := by
  rw [Fits, unitAt] at h ⊢
  rcases Nat.eq_zero_or_pos n.unit with hu | hu
  · rw [if_pos hu, Nat.mod_self]
  · have hunit : (n.moveTo v).unit = n.unit := if_neg hu.ne'
    rwa [hunit] at h

/-- A width up to that of a line has the level after the line that it had before. If the line fixes
the unit, the only smaller width that fits is its own. -/
theorem levelAt_moveTo (h : (n.moveTo v).Fits w) (hle : w ≤ v) :
    (n.moveTo v).levelAt w = n.levelAt w := by
  rcases Nat.eq_zero_or_pos w with rfl | hw
  · rw [levelAt, levelAt, Nat.zero_div, Nat.zero_div]
  rcases Nat.eq_zero_or_pos n.unit with hu | hu
  · have hunit : (n.moveTo v).unit = v := if_pos hu
    rw [Fits, unitAt, hunit, if_neg (by omega)] at h
    have hdvd : v ≤ w := Nat.le_of_dvd hw (Nat.dvd_of_mod_eq_zero h)
    obtain rfl : w = v := by omega
    rw [levelAt, levelAt, unitAt, unitAt, hunit, if_neg (by omega), if_pos hu]
  · have hunit : (n.moveTo v).unit = n.unit := if_neg hu.ne'
    rw [levelAt, levelAt, unitAt, unitAt, hunit]

/-- A greater width has no smaller level. -/
theorem levelAt_mono (n : Nesting) (hle : w ≤ v) : n.levelAt w ≤ n.levelAt v := by
  rw [levelAt, levelAt, unitAt, unitAt]
  split
  · rcases Nat.eq_zero_or_pos w with rfl | hw
    · rw [Nat.zero_div]
      exact Nat.zero_le _
    · rw [Nat.div_self hw, Nat.div_self (by omega)]
  · exact Nat.div_le_div_right hle

/-- A line keeps the parents for the widths up to its own. -/
theorem parentAt_moveTo (h : (n.moveTo v).Fits w) (hle : w ≤ v) :
    (n.moveTo v).parentAt w = n.parentAt w := by
  have hlevel := levelAt_moveTo h hle
  refine parentAt_congr hlevel fun j hj => ?_
  have hmono := n.levelAt_mono hle
  have hnew : j < n.levelAt w := by omega
  have hold : j < n.levelAt v := by omega
  simp only [getElem?_moveTo, hlevel, level_moveTo, hnew, hold, if_true]

/-- A line that has been added keeps the parents for the widths up to its own. -/
theorem parentAt_add_moveTo (hs : n.Sound) (hv : n.fault? v = none)
    (hf : ((n.moveTo v).add node).Fits w) (hle : w ≤ v) :
    ((n.moveTo v).add node).parentAt w = n.parentAt w := by
  have hfits : (n.moveTo v).Fits w := hf
  rw [parentAt_add (hs.moveTo hv) hfits (by rwa [width_of_fault? hv]), parentAt_moveTo hfits hle]

end Haml.Nesting
