import Playfield.Language.Generator

/-!
What the generator draws. Its words are counted from the place where it stands. Each heading is
chosen by the first word that is accepted, and the next one by the words behind that word.
-/

namespace Playfield.Generator

/-- The generator after some words were taken. -/
def skip : Nat → Generator → Generator
  | 0, generator => generator
  | count + 1, generator => skip count generator.next.2

def word (generator : Generator) (number : Nat) : UInt64 := (generator.skip number).next.1

/-! A word is multiplied by the number of headings. The lower half of the product says whether the
word is used, and the upper half which heading it is. -/

def Accepted (word : UInt64) : Prop :=
  word.toNat * 4 % 0x10000000000000000 < 0x8000000000000000

def Chooses (word : UInt64) (heading : Heading) : Prop :=
  [Heading.up, .down, .left, .right][word.toNat * 4 / 0x10000000000000000]? = some heading

theorem accepts_iff (word : UInt64) : accepts word = true ↔ Accepted word := by
  simp [accepts, Accepted, UInt64.lt_iff_toNat_lt]

theorem chooses_choose (word : UInt64) : Chooses word (choose word) := by
  have quarter {upper : Nat} (least : 0x4000000000000000 * upper ≤ word.toNat)
      (most : word.toNat < 0x4000000000000000 * (upper + 1)) :
      word.toNat * 4 / 0x10000000000000000 = upper := by omega
  have largest := word.toNat_lt
  simp only [Chooses, choose, UInt64.lt_iff_toNat_lt, UInt64.reduceToNat]
  split
  · rw [@quarter 0 (by omega) (by omega)]
    rfl
  · split
    · rw [@quarter 1 (by omega) (by omega)]
      rfl
    · split
      · rw [@quarter 2 (by omega) (by omega)]
        rfl
      · rw [@quarter 3 (by omega) (by omega)]
        rfl

/-! One heading. -/

/-- A heading is drawn behind some refused words. The word that chooses it is accepted, or as many
words were refused before it as the bound allows. -/
structure Draws (bound : Nat) (generator : Generator) (refused : Nat) (heading : Heading) :
    Prop where
  bounded : refused ≤ bound
  refuses : ∀ earlier < refused, ¬ Accepted (generator.word earlier)
  accepts : refused < bound → Accepted (generator.word refused)
  chooses : Chooses (generator.word refused) heading

theorem Draws.later {bound refused : Nat} {generator : Generator} {heading : Heading}
    (first : ¬ Accepted (generator.word 0))
    (draws : Draws bound generator.next.2 refused heading) :
    Draws (bound + 1) generator (refused + 1) heading where
  bounded := Nat.succ_le_succ draws.bounded
  refuses
    | 0, _ => first
    | earlier + 1, before => draws.refuses earlier (Nat.lt_of_succ_lt_succ before)
  accepts within := draws.accepts (Nat.lt_of_succ_lt_succ within)
  chooses := draws.chooses

theorem headingWithin_draws (tries : Nat) (generator : Generator) :
    ∃ refused, Draws tries generator refused (headingWithin tries generator).1 ∧
      (headingWithin tries generator).2 = generator.skip (refused + 1) := by
  induction tries generalizing generator with
  | zero =>
      refine ⟨0, ?_, rfl⟩
      exact ⟨Nat.le_refl 0, nofun, nofun, chooses_choose _⟩
  | succ tries ih =>
      by_cases accepted : accepts generator.next.1 = true
      · have taken : headingWithin (tries + 1) generator =
            (choose generator.next.1, generator.next.2) := if_pos accepted
        rw [taken]
        refine ⟨0, ?_, rfl⟩
        exact ⟨Nat.zero_le _, nofun, fun _ => (accepts_iff _).mp accepted, chooses_choose _⟩
      · have passed : headingWithin (tries + 1) generator =
            headingWithin tries generator.next.2 := if_neg accepted
        rw [passed]
        obtain ⟨refused, draws, left⟩ := ih generator.next.2
        refine ⟨refused + 1, ?_, left⟩
        exact draws.later fun first => accepted ((accepts_iff _).mpr first)

theorem heading_draws (generator : Generator) :
    ∃ refused, Draws patience generator refused generator.heading.1 ∧
      generator.heading.2 = generator.skip (refused + 1) :=
  headingWithin_draws patience generator

/-! Many headings. -/

/-- Headings that are drawn one after the other. -/
inductive Streams : Generator → List Heading → Prop where
  | nil (generator : Generator) : Streams generator []
  | cons {generator : Generator} {refused : Nat} {heading : Heading} {rest : List Heading}
      (draws : Draws patience generator refused heading)
      (later : Streams (generator.skip (refused + 1)) rest) : Streams generator (heading :: rest)

theorem headings_streams (count : Nat) (generator : Generator) :
    Streams generator (generator.headings count) := by
  induction count generalizing generator with
  | zero => exact .nil generator
  | succ count ih =>
      obtain ⟨refused, draws, left⟩ := generator.heading_draws
      refine Streams.cons draws ?_
      rw [← left]
      exact ih generator.heading.2

theorem headings_prefix {count more : Nat} (fewer : count ≤ more) (generator : Generator) :
    generator.headings count <+: generator.headings more := by
  induction count generalizing more generator with
  | zero => exact List.nil_prefix
  | succ count ih =>
      obtain ⟨rest, rfl⟩ := Nat.exists_eq_add_of_le' (Nat.lt_of_lt_of_le (Nat.succ_pos count) fewer)
      exact List.cons_prefix_cons.mpr ⟨rfl, ih (Nat.le_of_succ_le_succ fewer) generator.heading.2⟩

end Playfield.Generator
