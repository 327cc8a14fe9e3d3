import Mathlib.Algebra.Order.Ring.Int
import Mathlib.Data.List.Induction

/-! Bit stuffing: after every five equal bits of the output their complement is inserted, which
counts for the next five. Each bit carries a mark, which its stuff bit takes over. An encoder
need not keep the output, since the last bit and the length of its run decide what is inserted. -/
namespace Canbuskit.Stuffing

variable {Mark : Type}

def push (output : List (Bool × Mark)) (bit : Bool × Mark) : List (Bool × Mark) :=
  let output := output ++ [bit]
  if (List.replicate 5 bit.1).isSuffixOf (output.map Prod.fst) then output ++ [(!bit.1,bit.2)]
  else output

def stuff (bits : List (Bool × Mark)) : List (Bool × Mark) := bits.foldl push []

theorem stuff_snoc (bits : List (Bool × Mark)) (bit : Bool × Mark) :
    stuff (bits ++ [bit]) = push (stuff bits) bit := by
  simp [stuff]

/-- The last bit of an output and the length of its run, which stays below five. -/
inductive Ends : List (Bool × Mark) → Option (Bool × Nat) → Prop
  | nil : Ends [] none
  | run {output before last run} (positive : 0 < run) (short : run < 5)
      (shape : output.map Prod.fst = before ++ List.replicate run last)
      (fresh : before.getLast? ≠ some last) : Ends output (some (last,run))

/-- The length of the run that a bit extends or begins. -/
def extend (tail : Option (Bool × Nat)) (bit : Bool) : Nat := match tail with
  | some (last,run) => if last = bit then run + 1 else 1
  | none => 1

def advance (tail : Option (Bool × Nat)) (bit : Bool) : Bool × Nat :=
  if extend tail bit = 5 then (!bit,1) else (bit,extend tail bit)

/-- A list that ends in a run ends in five equal bits exactly when the run has five. -/
theorem suffix_run {before : List Bool} {last : Bool} {run : Nat}
    (fresh : before.getLast? ≠ some last) :
    List.replicate 5 last <:+ before ++ List.replicate run last ↔ 5 ≤ run := by
  constructor
  · rintro ⟨front,same⟩
    by_contra short
    have split : List.replicate 5 last =
        List.replicate (4 - run) last ++ [last] ++ List.replicate run last := by
      rw [← List.replicate_succ',List.replicate_append_replicate]
      congr 1
      omega
    rw [split,← List.append_assoc] at same
    obtain ⟨front,_⟩ := List.append_inj' same rfl
    apply fresh
    rw [← front,← List.append_assoc,List.getLast?_concat]
  · intro long
    obtain ⟨more,rfl⟩ := Nat.exists_eq_add_of_le' long
    exact ⟨before ++ List.replicate more last,by simp [← List.replicate_append_replicate]⟩

/-- What a bit adds to an output, and how the output then ends. -/
theorem push_ends {output : List (Bool × Mark)} {tail : Option (Bool × Nat)}
    (ends : Ends output tail) (bit : Bool × Mark) :
    push output bit = output ++ bit ::
      (if extend tail bit.1 = 5 then [(!bit.1,bit.2)] else []) ∧
    Ends (push output bit) (some (advance tail bit.1)) := by
  have grown : ∃ before, (output ++ [bit]).map Prod.fst =
      before ++ List.replicate (extend tail bit.1) bit.1 ∧ before.getLast? ≠ some bit.1 ∧
      0 < extend tail bit.1 ∧ extend tail bit.1 ≤ 5 := by
    cases ends with
    | nil => exact ⟨[],by simp [extend],by simp,by simp [extend],by simp [extend]⟩
    | @run _ before last run positive short shape fresh =>
      by_cases same : last = bit.1
      · subst same
        refine ⟨before,?_,fresh,by simp [extend],by simp [extend]; omega⟩
        simp [extend,shape,List.replicate_succ']
      · refine ⟨before ++ List.replicate run last,?_,?_,by simp [extend,same],by simp [extend,same]⟩
        · simp [extend,same,shape]
        · obtain ⟨run,rfl⟩ := Nat.exists_eq_succ_of_ne_zero (Nat.ne_of_gt positive)
          simpa [List.replicate_succ'] using same
  obtain ⟨before,shape,fresh,positive,short⟩ := grown
  have five : List.replicate 5 bit.1 <:+ _ ++ List.replicate (extend tail bit.1) bit.1 ↔ _ :=
    suffix_run fresh
  rw [← shape,← List.isSuffixOf_iff_suffix] at five
  unfold push advance
  by_cases full : extend tail bit.1 = 5
  · rw [if_pos full,if_pos full]
    dsimp only
    rw [if_pos (five.mpr (by omega))]
    have stuffed : (output ++ [bit] ++ [(!bit.1,bit.2)]).map Prod.fst =
        (before ++ List.replicate 5 bit.1) ++ List.replicate 1 (!bit.1) := by
      rw [List.map_append,shape,full]
      rfl
    exact ⟨by simp,.run (by omega) (by omega) stuffed (by simp)⟩
  · rw [if_neg full,if_neg full]
    dsimp only
    rw [if_neg (fun suffix => full (by have := five.mp suffix; omega))]
    exact ⟨rfl,.run positive (by omega) shape fresh⟩

/-- Each stuff bit takes four new bits after the last one, and what is left is the current run. -/
theorem stuff_bounds (bits : List (Bool × Mark)) : ∃ tail, Ends (stuff bits) tail ∧
    bits.length ≤ (stuff bits).length ∧
      4 * (stuff bits).length + (tail.elim 0 Prod.snd) ≤ 5 * bits.length := by
  induction bits using List.reverseRecOn with
  | nil => exact ⟨none,.nil,Nat.le_refl _,Nat.le_refl _⟩
  | append_singleton bits bit ih =>
    obtain ⟨tail,ends,longer,bounded⟩ := ih
    obtain ⟨pushed,after⟩ := push_ends ends bit
    have extended : extend tail bit.1 ≤ tail.elim 0 Prod.snd + 1 := by
      rcases tail with _ | ⟨last,run⟩
      · simp [extend]
      · simp only [extend,Option.elim_some]
        split <;> omega
    rw [stuff_snoc]
    refine ⟨_,after,?_⟩
    rw [pushed]
    by_cases full : extend tail bit.1 = 5
    · simp [advance,full]
      omega
    · simp [advance,full]
      omega

theorem length_stuff (bits : List (Bool × Mark)) :
    bits.length ≤ (stuff bits).length ∧ 4 * (stuff bits).length ≤ 5 * bits.length - 1 := by
  obtain ⟨tail,ends,longer,bounded⟩ := stuff_bounds bits
  generalize stuff bits = output at ends longer bounded
  cases ends with
  | nil => exact ⟨longer,Nat.zero_le _⟩
  | run positive =>
    simp only [Option.elim_some] at bounded
    omega

/-- Stuffing brings in no new marks. -/
theorem mark_stuff {bits : List (Bool × Mark)} {bit : Bool × Mark} (member : bit ∈ stuff bits) :
    ∃ source ∈ bits, source.2 = bit.2 := by
  induction bits using List.reverseRecOn with
  | nil => simp [stuff] at member
  | append_singleton bits last ih =>
    obtain ⟨tail,ends,_⟩ := stuff_bounds bits
    rw [stuff_snoc,(push_ends ends last).1,List.mem_append,List.mem_cons] at member
    rcases member with old | rfl | stuffed
    · obtain ⟨source,among,same⟩ := ih old
      exact ⟨source,by simp [among],same⟩
    · exact ⟨bit,by simp,rfl⟩
    · split_ifs at stuffed
      · rw [List.mem_singleton.mp stuffed]
        exact ⟨last,by simp,rfl⟩
      · simp at stuffed

/-- An encoder that follows the output over one bit follows it over any. -/
theorem foldl_follows {State : Type} {count : State → Bool × Mark → State}
    {follows : State → List (Bool × Mark) → Prop} {s : State} {output : List (Bool × Mark)}
    (initially : follows s output)
    (keeps : ∀ s output bit, follows s output → follows (count s bit) (push output bit))
    (bits : List (Bool × Mark)) : follows (bits.foldl count s) (bits.foldl push output) := by
  induction bits generalizing s output with
  | nil => exact initially
  | cons bit bits ih => exact ih (keeps s output bit initially)

end Canbuskit.Stuffing
