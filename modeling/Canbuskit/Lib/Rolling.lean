import Mathlib.Algebra.Order.Ring.Int
import Mathlib.Data.List.Induction
import Mathlib.Algebra.BigOperators.Group.List.Basic

/-! A rolling window of equally wide buckets. Before a time past its end is used the window moves
up by whole buckets, so that its start is late by less than one bucket. What a bucket shows may be
a total of its entries, since moving and adding do not look into a bucket. -/
namespace Canbuskit.Rolling

variable {Slot Shown Entry : Type} {size : Nat}

/-- The buckets moved down, with fresh ones at the top. -/
def shift (empty : Slot) (slots : Vector Slot size) (count : Nat) : Vector Slot size :=
  ⟨(slots.toList.drop count ++ List.replicate (min count size) empty).toArray,by
    simp only [List.size_toArray,List.length_append,List.length_drop,Vector.length_toList,
      List.length_replicate]
    omega⟩

def alter (slots : Vector Slot size) (i : Nat) (change : Slot → Slot) : Vector Slot size :=
  if inside : i < size then slots.set i (change slots[i]) else slots

theorem toList_shift (empty : Slot) (slots : Vector Slot size) (count : Nat) :
    (shift empty slots count).toList =
      slots.toList.drop count ++ List.replicate (min count size) empty :=
  rfl

theorem getElem_shift (empty : Slot) (slots : Vector Slot size) (count i : Nat) (inside : i < size) :
    (shift empty slots count)[i] =
      if above : i + count < size then slots[i + count] else empty := by
  rw [← Vector.getElem_toList (by simpa using inside)]
  simp only [toList_shift,List.getElem_append,List.length_drop,Vector.length_toList]
  by_cases above : i + count < size
  · rw [dif_pos above,dif_pos (by omega)]
    simp [Nat.add_comm]
  · rw [dif_neg above,dif_neg (by omega),List.getElem_replicate]

theorem map_shift (meaning : Slot → Shown) (empty : Slot) (slots : Vector Slot size) (count : Nat) :
    (shift empty slots count).map meaning = shift (meaning empty) (slots.map meaning) count := by
  ext i inside
  rw [Vector.getElem_map,getElem_shift,getElem_shift]
  split <;> simp

theorem getElem_alter (slots : Vector Slot size) (i : Nat) (change : Slot → Slot) (j : Nat)
    (inside : j < size) :
    (alter slots i change)[j] = if i = j then change slots[j] else slots[j] := by
  unfold alter
  split
  · rw [Vector.getElem_set]
    split <;> simp_all
  · rw [if_neg (by omega)]

theorem alter_congr {slots : Vector Slot size} {i : Nat} (inside : i < size)
    {change other : Slot → Slot} (same : change slots[i] = other slots[i]) :
    alter slots i change = alter slots i other := by
  simp only [alter,inside,dif_pos,same]

theorem map_alter (meaning : Slot → Shown) {change : Slot → Slot} {changed : Shown → Shown}
    (slots : Vector Slot size) (i : Nat) (follows : ∀ slot, meaning (change slot) = changed (meaning slot)) :
    (alter slots i change).map meaning = alter (slots.map meaning) i changed := by
  ext j inside
  rw [Vector.getElem_map,getElem_alter,getElem_alter,Vector.getElem_map]
  split
  · exact follows _
  · rfl

theorem toList_set_self (slots : Vector Slot size) {i : Nat} (inside : i < size) :
    slots.toList.set i slots[i] = slots.toList := by
  rw [← Vector.toList_set inside,Vector.set_getElem_self]

/-- A total over the buckets changes with the one that is altered. -/
theorem sum_alter (amount : Slot → Nat) (slots : Vector Slot size) {i : Nat} (inside : i < size)
    (change : Slot → Slot) :
    ((alter slots i change).toList.map amount).sum + amount slots[i] =
      (slots.toList.map amount).sum + amount (change slots[i]) := by
  have cut (new : Slot) : ((slots.toList.set i new).map amount).sum =
      ((slots.toList.map amount).take i).sum + amount new +
        ((slots.toList.map amount).drop (i + 1)).sum := by
    rw [List.map_set,List.sum_set]
    simp [inside]
  have before := cut slots[i]
  rw [toList_set_self slots inside] at before
  rw [alter,dif_pos inside,Vector.toList_set,cut,before]
  omega

structure Window (Slot : Type) (size : Nat) where
  origin : Int
  slots : Vector Slot size

namespace Window

def finish (width : Int) (w : Window Slot size) : Int := w.origin + size * width

def rotate (width : Int) (empty : Slot) (w : Window Slot size) (now : Int) : Window Slot size :=
  if now ≤ w.finish width then w
  else
    let count := ((now - w.finish width + width - 1) / width).toNat
    if size ≤ count then ⟨now,Vector.replicate size empty⟩
    else ⟨w.origin + count * width,shift empty w.slots count⟩

/-- A time at the very end of the window goes to its last bucket. -/
def index (width : Int) (w : Window Slot size) (time : Int) : Nat :=
  min ((time - w.origin) / width).toNat (size - 1)

def change (width : Int) (w : Window Slot size) (time : Int) (change : Slot → Slot) :
    Window Slot size :=
  ⟨w.origin,alter w.slots (w.index width time) change⟩

def map (meaning : Slot → Shown) (w : Window Slot size) : Window Shown size :=
  ⟨w.origin,w.slots.map meaning⟩

variable {width : Int}

theorem rotate_within {empty : Slot} {w : Window Slot size} {now : Int}
    (within : now ≤ w.finish width) : w.rotate width empty now = w := by
  rw [rotate,if_pos within]

theorem rotate_past {empty : Slot} {w : Window Slot size} {now : Int}
    (past : w.finish width < now) {count : Nat}
    (counted : ((now - w.finish width + width - 1) / width).toNat = count) :
    w.rotate width empty now = if size ≤ count then ⟨now,Vector.replicate size empty⟩
      else ⟨w.origin + count * width,shift empty w.slots count⟩ := by
  rw [rotate,if_neg (by omega),counted]

theorem map_rotate (meaning : Slot → Shown) (empty : Slot) (w : Window Slot size) (now : Int) :
    (w.rotate width empty now).map meaning = (w.map meaning).rotate width (meaning empty) now := by
  by_cases within : now ≤ w.finish width
  · have same : now ≤ (w.map meaning).finish width := within
    rw [rotate_within within,rotate_within same]
  · have past : w.finish width < now := by omega
    have same : (w.map meaning).finish width < now := past
    rw [rotate_past past rfl,rotate_past same rfl]
    have ends : (w.map meaning).finish width = w.finish width := rfl
    rw [ends]
    split
    · simp [map]
    · simp [map,map_shift]

theorem map_change (meaning : Slot → Shown) {changing : Slot → Slot} {changed : Shown → Shown}
    (follows : ∀ slot, meaning (changing slot) = changed (meaning slot)) (w : Window Slot size)
    (time : Int) : (w.change width time changing).map meaning =
      (w.map meaning).change width time changed := by
  simp only [change,map,index]
  rw [map_alter meaning w.slots _ follows]

/-- A window stays, moves up by some buckets to end less than a bucket after the time, or begins
anew at a time that is at least a window minus a bucket past its end. -/
theorem rotate_cases (positive : 0 < width) (empty : Slot) (w : Window Slot size) (now : Int) :
    (now ≤ w.finish width ∧ w.rotate width empty now = w) ∨
    (∃ count : Nat, count < size ∧ w.finish width < now ∧
      w.rotate width empty now = ⟨w.origin + count * width,shift empty w.slots count⟩ ∧
      now ≤ w.finish width + count * width ∧ w.finish width + count * width < now + width) ∨
    (w.finish width + (size - 1) * width < now ∧
      w.rotate width empty now = ⟨now,Vector.replicate size empty⟩) := by
  by_cases within : now ≤ w.finish width
  · exact .inl ⟨within,rotate_within within⟩
  have nonneg : 0 ≤ (now - w.finish width + width - 1) / width :=
    Int.ediv_nonneg (by omega) (by omega)
  obtain ⟨count,counted⟩ := Int.eq_ofNat_of_zero_le nonneg
  have below : count * width ≤ now - w.finish width + width - 1 := by
    rw [← counted]
    exact Int.ediv_mul_le _ (by omega)
  have above : now - w.finish width + width - 1 < count * width + width := by
    have := Int.lt_ediv_add_one_mul_self (now - w.finish width + width - 1) positive
    rw [counted,Int.add_mul,Int.one_mul] at this
    exact this
  have moved : w.rotate width empty now = if size ≤ count then ⟨now,Vector.replicate size empty⟩
      else ⟨w.origin + count * width,shift empty w.slots count⟩ := by
    refine rotate_past (by omega) ?_
    rw [counted,Int.toNat_natCast]
  refine .inr ?_
  by_cases whole : size ≤ count
  · refine .inr ⟨?_,by rw [moved,if_pos whole]⟩
    have product : (size : Int) * width ≤ count * width :=
      Int.mul_le_mul_of_nonneg_right (by exact_mod_cast whole) (by omega)
    rw [Int.sub_mul,Int.one_mul]
    omega
  · refine .inl ⟨count,by omega,by omega,by rw [moved,if_neg whole],by omega,by omega⟩

/-- A window that has begun is moved around the time. -/
theorem rotate_around (positive : 0 < width) (empty : Slot) {w : Window Slot size} {now : Int}
    (begun : w.origin ≤ now) : w.origin ≤ (w.rotate width empty now).origin ∧
      (w.rotate width empty now).origin ≤ now ∧
      now ≤ (w.rotate width empty now).finish width := by
  have whole (count : Nat) : 0 ≤ (count : Int) * width := Int.mul_nonneg (by omega) (by omega)
  rcases rotate_cases positive empty w now with ⟨within,same⟩ | ⟨count,fewer,_,moved,far,close⟩ |
    ⟨_,cleared⟩
  · rw [same]
    omega
  · have span : width + count * width ≤ size * width := by
      have product : ((count : Int) + 1) * width ≤ size * width :=
        Int.mul_le_mul_of_nonneg_right (by omega) (by omega)
      rw [Int.add_mul,Int.one_mul] at product
      omega
    have ahead := whole count
    rw [moved]
    unfold finish at far close ⊢
    dsimp only
    omega
  · have ahead := whole size
    rw [cleared]
    unfold finish
    dsimp only
    omega

/-- What a window of entry lists holds, bucket by bucket. -/
def entries (w : Window (List Entry) size) : List Entry := w.slots.toList.flatten

/-- Each entry's time lies in its bucket, whose ends both belong to it. -/
def Placed (time : Entry → Int) (width : Int) (w : Window (List Entry) size) : Prop :=
  ∀ i (inside : i < size), ∀ entry ∈ w.slots[i],
    w.origin + i * width ≤ time entry ∧ time entry ≤ w.origin + (i + 1) * width

variable {time : Entry → Int} {w : Window (List Entry) size}

theorem mem_take {count : Nat} {entry : Entry} (member : entry ∈ (w.slots.toList.take count).flatten) :
    ∃ i, ∃ inside : i < size, i < count ∧ entry ∈ w.slots[i] := by
  obtain ⟨bucket,among,within⟩ := List.mem_flatten.mp member
  obtain ⟨i,inside,rfl⟩ := List.mem_iff_getElem.mp among
  simp only [List.length_take,Vector.length_toList] at inside
  exact ⟨i,by omega,by omega,by simpa using within⟩

theorem mem_entries {entry : Entry} (member : entry ∈ w.entries) :
    ∃ i, ∃ inside : i < size, entry ∈ w.slots[i] := by
  have whole : w.slots.toList.take size = w.slots.toList :=
    List.take_of_length_le (by simp)
  rw [entries,← whole] at member
  obtain ⟨i,inside,_,within⟩ := mem_take member
  exact ⟨i,inside,within⟩

theorem Placed.within (placed : w.Placed time width) (positive : 0 < width) {entry : Entry}
    (member : entry ∈ w.entries) : w.origin ≤ time entry ∧ time entry ≤ w.finish width := by
  obtain ⟨i,inside,within⟩ := mem_entries member
  obtain ⟨late,early⟩ := placed i inside entry within
  have start : 0 ≤ (i : Int) * width := Int.mul_nonneg (by omega) (by omega)
  have stop : ((i : Int) + 1) * width ≤ size * width :=
    Int.mul_le_mul_of_nonneg_right (by omega) (by omega)
  unfold finish
  omega

theorem Placed.rotate (placed : w.Placed time width) (positive : 0 < width) (now : Int) :
    (w.rotate width [] now).Placed time width := by
  rcases rotate_cases positive [] w now with ⟨_,same⟩ | ⟨count,_,_,moved,_⟩ | ⟨_,cleared⟩
  · rwa [same]
  · rw [moved]
    intro i inside entry member
    simp only [getElem_shift] at member
    split at member
    · rename_i above
      have old := placed _ above entry member
      simp only [Nat.cast_add,Int.add_mul,Int.one_mul] at old ⊢
      omega
    · simp at member
  · rw [cleared]
    intro i inside entry member
    simp at member

/-- What a window loses when it moves is older than the window less a bucket. -/
theorem Placed.rotate_entries (placed : w.Placed time width) (positive : 0 < width) (now : Int) :
    ∃ dropped, w.entries = dropped ++ (w.rotate width [] now).entries ∧
      ∀ entry ∈ dropped, (size - 1) * width < now - time entry := by
  rcases rotate_cases positive [] w now with ⟨_,same⟩ | ⟨count,_,_,moved,_,close⟩ | ⟨far,cleared⟩
  · exact ⟨[],by rw [same,List.nil_append],by simp⟩
  · refine ⟨(w.slots.toList.take count).flatten,?_,?_⟩
    · simp only [moved,entries,toList_shift,List.flatten_append,List.flatten_replicate_nil,
        List.append_nil]
      rw [← List.flatten_append,List.take_append_drop]
    · intro entry member
      obtain ⟨i,inside,below,within⟩ := mem_take member
      have early := (placed i inside entry within).2
      have stop : ((i : Int) + 1) * width ≤ count * width :=
        Int.mul_le_mul_of_nonneg_right (by omega) (by omega)
      unfold finish at close
      rw [Int.sub_mul,Int.one_mul]
      omega
  · refine ⟨w.entries,?_,?_⟩
    · simp [cleared,entries]
    · intro entry member
      have early := (placed.within positive member).2
      omega

theorem Placed.add (placed : w.Placed time width) (positive : 0 < width) (nonempty : 0 < size)
    (entry : Entry) (late : w.origin ≤ time entry) (early : time entry ≤ w.finish width) :
    (w.change width (time entry) (· ++ [entry])).Placed time width := by
  intro i inside other member
  simp only [change,getElem_alter] at member
  split at member
  · rename_i here
    rcases List.mem_append.mp member with old | new
    · exact placed i inside other old
    · rw [List.mem_singleton.mp new]
      have below := Int.ediv_mul_le (time entry - w.origin) (Int.ne_of_gt positive)
      have above := Int.lt_ediv_add_one_mul_self (time entry - w.origin) positive
      have nonneg : 0 ≤ (time entry - w.origin) / width :=
        Int.ediv_nonneg (by omega) (by omega)
      obtain ⟨bucket,counted⟩ := Int.eq_ofNat_of_zero_le nonneg
      rw [counted] at below above
      simp only [change,index,counted,Int.toNat_natCast] at here ⊢
      by_cases last : bucket ≤ size - 1
      · rw [Nat.min_eq_left last] at here
        subst here
        omega
      · have whole : (size : Int) * width ≤ bucket * width :=
          Int.mul_le_mul_of_nonneg_right (by omega) (by omega)
        have final : (i : Int) + 1 = size := by omega
        unfold finish at early
        simp only [final]
        have before : (i : Int) * width ≤ size * width :=
          Int.mul_le_mul_of_nonneg_right (by omega) (by omega)
        omega
  · exact placed i inside other member

theorem add_entries (width : Int) (w : Window (List Entry) size) (nonempty : 0 < size)
    (moment : Int) (entry : Entry) :
    (w.change width moment (· ++ [entry])).entries.Perm (w.entries ++ [entry]) := by
  have inside : w.index width moment < size := by
    unfold index
    omega
  have cut (new : List Entry) : (w.slots.toList.set (w.index width moment) new).flatten =
      (w.slots.toList.take (w.index width moment)).flatten ++ new ++
        (w.slots.toList.drop (w.index width moment + 1)).flatten := by
    rw [List.set_eq_take_append_cons_drop,if_pos (by simpa using inside)]
    simp
  have whole := cut w.slots[w.index width moment]
  rw [toList_set_self w.slots inside] at whole
  unfold entries
  rw [whole]
  simp only [change,alter,dif_pos inside,Vector.toList_set,cut,List.append_assoc]
  refine List.Perm.append_left _ (List.Perm.append_left _ ?_)
  exact List.perm_append_comm

end Window

end Canbuskit.Rolling
