import MeshTrace.Campaign.Order

namespace MeshTrace

/-- Runs with numbers are in the order of the numbers. -/
theorem runBefore_of_numbers {a b : String} {x y : Nat} (first : runNumber? a = some x)
    (second : runNumber? b = some y) : runBefore a b = true ↔ x ≤ y := by
  simp only [runBefore, first, second, decide_eq_true_eq]

theorem runBefore_of_words {a b : String} (first : runNumber? a = none) (second : runNumber? b = none) :
    runBefore a b = true ↔ a ≤ b := by
  simp only [runBefore, first, second, decide_eq_true_eq]

/-- No word stands before a number. -/
theorem runNumber?_of_runBefore_word {a b : String} (word : runNumber? a = none) (before : runBefore a b = true) :
    runNumber? b = none := by
  cases number : runNumber? b with
  | none => rfl
  | some y => simp only [runBefore, word, number, Bool.false_eq_true] at before

/-- Of two runs, one may come before the other. -/
theorem runBefore_total (a b : String) : (runBefore a b || runBefore b a) = true := by
  cases first : runNumber? a <;> cases second : runNumber? b <;>
    simp only [runBefore, first, second, Bool.or_eq_true, decide_eq_true_eq, Bool.false_eq_true, true_or, or_true]
  · exact String.le_total a b
  · exact Nat.le_total _ _

/-- The order of the runs is transitive. -/
theorem runBefore_trans (a b c : String) (ab : runBefore a b = true) (bc : runBefore b c = true) :
    runBefore a c = true := by
  cases first : runNumber? a with
  | none =>
    have second := runNumber?_of_runBefore_word first ab
    have third := runNumber?_of_runBefore_word second bc
    rw [runBefore_of_words first second] at ab
    rw [runBefore_of_words second third] at bc
    rw [runBefore_of_words first third]
    exact String.le_trans ab bc
  | some x =>
    cases third : runNumber? c with
    | none => simp only [runBefore, first, third]
    | some z =>
      cases second : runNumber? b with
      | none => simp only [runBefore, second, third, Bool.false_eq_true] at bc
      | some y =>
        rw [runBefore_of_numbers first second] at ab
        rw [runBefore_of_numbers second third] at bc
        rw [runBefore_of_numbers first third]
        exact Nat.le_trans ab bc

/-- Two names of which each may stand before the other are one name, or two of the same number. -/
theorem eq_or_runNumber?_of_runBefore {a b : String} (ab : runBefore a b = true) (ba : runBefore b a = true) :
    a = b ∨ ∃ n, runNumber? a = some n ∧ runNumber? b = some n := by
  cases first : runNumber? a with
  | none =>
    have second := runNumber?_of_runBefore_word first ab
    rw [runBefore_of_words first second] at ab
    rw [runBefore_of_words second first] at ba
    exact Or.inl (String.le_antisymm ab ba)
  | some x =>
    cases second : runNumber? b with
    | none => simp only [runBefore, first, second, Bool.false_eq_true] at ba
    | some y =>
      rw [runBefore_of_numbers first second] at ab
      rw [runBefore_of_numbers second first] at ba
      exact Or.inr ⟨x, rfl, congrArg some (Nat.le_antisymm ba ab)⟩

/-- Sorting loses no run and adds none. -/
theorem sortRuns_perm (names : List String) : (sortRuns names).Perm names := List.mergeSort_perm ..

theorem pairwise_sortRuns (names : List String) : (sortRuns names).Pairwise (runBefore · · = true) :=
  List.pairwise_mergeSort runBefore_trans runBefore_total names

/-- Names in order stay as they are. -/
theorem sortRuns_eq_self {names : List String} (sorted : names.Pairwise (runBefore · · = true)) :
    sortRuns names = names :=
  List.mergeSort_of_pairwise sorted

/-- The names of a number, in the order in which they stand. -/
def spellings (n : Nat) (names : List String) : List String := names.filter (runNumber? · = some n)

theorem runNumber?_of_mem_spellings {n : Nat} {names : List String} {a : String} (member : a ∈ spellings n names) :
    runNumber? a = some n :=
  of_decide_eq_true (List.mem_filter.mp member).2

theorem pairwise_spellings (n : Nat) (names : List String) : (spellings n names).Pairwise (runBefore · · = true) :=
  List.pairwise_of_forall_mem_list fun _ first _ second =>
    (runBefore_of_numbers (runNumber?_of_mem_spellings first) (runNumber?_of_mem_spellings second)).mpr (Nat.le_refl n)

theorem spellings_spellings (n : Nat) (names : List String) : spellings n (spellings n names) = spellings n names := by
  simp only [spellings, List.filter_filter, Bool.and_self]

/-- Names of the same number keep their order. -/
theorem spellings_sortRuns (n : Nat) (names : List String) : spellings n (sortRuns names) = spellings n names := by
  have kept : (spellings n names).Sublist (sortRuns names) :=
    List.sublist_mergeSort runBefore_trans runBefore_total (pairwise_spellings n names) List.filter_sublist
  have within : (spellings n (spellings n names)).Sublist (spellings n (sortRuns names)) := kept.filter _
  rw [spellings_spellings] at within
  exact (within.eq_of_length ((sortRuns_perm names).filter _).length_eq.symm).symm

/-- Sorted names are settled by which they are, and by the order of those of the same number. -/
theorem eq_of_pairwise_runBefore {names others : List String} (sorted : names.Pairwise (runBefore · · = true))
    (sorted' : others.Pairwise (runBefore · · = true)) (same : names.Perm others)
    (alike : ∀ n, spellings n names = spellings n others) : names = others := by
  induction names generalizing others with
  | nil => exact same.nil_eq
  | cons a names ih =>
    cases others with
    | nil => exact same.eq_nil
    | cons b others =>
      obtain ⟨first, rest⟩ := List.pairwise_cons.mp sorted
      obtain ⟨first', rest'⟩ := List.pairwise_cons.mp sorted'
      have heads : a = b := by
        -- Heads that differ stand before each other, so they are one number, and the first name of that number is the
        -- same in both lists.
        by_cases different : a = b
        · exact different
        · have inOthers : a ∈ others :=
            (List.mem_cons.mp (same.mem_iff.mp (List.mem_cons_self ..))).resolve_left different
          have inNames : b ∈ names :=
            (List.mem_cons.mp (same.mem_iff.mpr (List.mem_cons_self ..))).resolve_left (Ne.symm different)
          rcases eq_or_runNumber?_of_runBefore (first b inNames) (first' a inOthers) with equal | ⟨n, number, number'⟩
          · exact equal
          · have both := alike n
            simp only [spellings, List.filter_cons, number, number', decide_true, if_true] at both
            exact (List.cons.inj both).1
      subst heads
      refine congrArg (a :: ·) (ih rest rest' same.cons_inv fun n => ?_)
      have both := alike n
      simp only [spellings, List.filter_cons] at both
      split at both
      · exact (List.cons.inj both).2
      · exact both

/-- Two enumerations of the same names come to the same order exactly if they agree on the order of the names of each
number. -/
theorem sortRuns_eq_iff {names others : List String} (same : names.Perm others) :
    sortRuns names = sortRuns others ↔ ∀ n, spellings n names = spellings n others := by
  constructor
  · intro equal n
    rw [← spellings_sortRuns, equal, spellings_sortRuns]
  · intro alike
    refine eq_of_pairwise_runBefore (pairwise_sortRuns names) (pairwise_sortRuns others)
      ((sortRuns_perm names).trans (same.trans (sortRuns_perm others).symm)) fun n => ?_
    rw [spellings_sortRuns, spellings_sortRuns, alike]

/-- Where no two names are the same number, all enumerations agree on the order of the names of each number. -/
theorem spellings_eq_of_perm {names others : List String} (same : names.Perm others)
    (apart : (names.filterMap runNumber?).Nodup) (n : Nat) : spellings n names = spellings n others := by
  have alike : (spellings n names).Perm (spellings n others) := same.filter _
  have different : (spellings n names).Pairwise fun a b => runNumber? a ≠ runNumber? b := by
    have kept : (spellings n names).Sublist names := List.filter_sublist
    refine ((List.pairwise_filterMap.mp apart).sublist kept).imp_of_mem fun {a b} first _ unlike both => ?_
    have number : runNumber? a = some n := runNumber?_of_mem_spellings first
    exact unlike n number n (both ▸ number) rfl
  rcases few : spellings n names with - | ⟨a, - | ⟨b, rest⟩⟩ <;> rw [few] at alike different
  · exact alike.nil_eq
  · exact List.singleton_perm.mp alike
  · have number (c : String) (member : c ∈ a :: b :: rest) : runNumber? c = some n :=
      runNumber?_of_mem_spellings (few.symm ▸ member)
    have unlike : runNumber? a ≠ runNumber? b := (List.pairwise_cons.mp different).1 b (List.mem_cons_self ..)
    exact absurd ((number a (by simp)).trans (number b (by simp)).symm) unlike

/-- First the numbers, none above a later one, then the words in alphabetical order. -/
def InRunOrder (names : List String) : Prop :=
  ∃ numbers words, names = numbers ++ words ∧
    (∃ values : List Nat, numbers.map runNumber? = values.map some ∧ values.Pairwise (· ≤ ·)) ∧
    (∀ word ∈ words, runNumber? word = none) ∧ words.Pairwise (· < ·)

theorem inRunOrder_of_pairwise {names : List String} (distinct : names.Nodup)
    (sorted : names.Pairwise (runBefore · · = true)) : InRunOrder names := by
  induction names with
  | nil => exact ⟨[], [], rfl, ⟨[], rfl, .nil⟩, nofun, .nil⟩
  | cons a names ih =>
    obtain ⟨first, rest⟩ := List.pairwise_cons.mp sorted
    obtain ⟨fresh, distinct⟩ := List.nodup_cons.mp distinct
    obtain ⟨numbers, words, rfl, ⟨values, numbered, ascending⟩, wordless, alphabetical⟩ := ih distinct rest
    cases number : runNumber? a with
    | some x =>
      refine ⟨a :: numbers, words, rfl, ⟨x :: values, ?_, ?_⟩, wordless, alphabetical⟩
      · rw [List.map_cons, number, numbered, List.map_cons]
      · refine List.pairwise_cons.mpr ⟨fun y member => ?_, ascending⟩
        have listed : some y ∈ numbers.map runNumber? := numbered ▸ List.mem_map_of_mem member
        obtain ⟨b, among, value⟩ := List.mem_map.mp listed
        exact (runBefore_of_numbers number value).mp (first b (List.mem_append_left words among))
    | none =>
      have word (b : String) (member : b ∈ numbers ++ words) : runNumber? b = none :=
        runNumber?_of_runBefore_word number (first b member)
      obtain rfl : numbers = [] := by
        rcases numbers with - | ⟨b, numbers⟩
        · rfl
        · obtain ⟨x, values, -, value, -⟩ := List.map_eq_cons_iff.mp numbered.symm
          cases (word b (List.mem_cons_self ..)).symm.trans value.symm
      refine ⟨[], a :: words, rfl, ⟨[], rfl, .nil⟩, List.forall_mem_cons.mpr ⟨number, word⟩, ?_⟩
      refine List.pairwise_cons.mpr ⟨fun b member => ?_, alphabetical⟩
      have upTo : a ≤ b := (runBefore_of_words number (word b member)).mp (first b member)
      have different : a ≠ b := fun same => fresh (same ▸ member)
      exact String.not_le.mp fun back => different (String.le_antisymm upTo back)

/-- Different names are in the order of runs when they are sorted. -/
theorem inRunOrder_sortRuns {names : List String} (distinct : names.Nodup) : InRunOrder (sortRuns names) :=
  inRunOrder_of_pairwise ((sortRuns_perm names).nodup_iff.mpr distinct) (pairwise_sortRuns names)

end MeshTrace
