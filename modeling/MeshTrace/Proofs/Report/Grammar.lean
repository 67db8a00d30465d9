import MeshTrace.Proofs.Report.Content
import MeshTrace.Proofs.Text.Grammar

namespace MeshTrace.Report

open Text

/-- A place in a line for a figure or a counter: its name in messages and the text that stands there. -/
inductive Slot
  | figure (name : String) (text : List Char)
  | counter (name : String) (text : List Char)

/-- A text that may stand for a figure. -/
def IsToken (text : List Char) : Prop := text ≠ [] ∧ Solid text

/-- A text that may stand for a counter: digits of any script. -/
def IsDigits (text : List Char) : Prop := text ≠ [] ∧ ∀ c ∈ text, isDecimal c = true

instance (text : List Char) : Decidable (IsToken text) := inferInstanceAs (Decidable (_ ∧ _))

instance (text : List Char) : Decidable (IsDigits text) :=
  @instDecidableAnd _ _ _ (List.decidableBAll (isDecimal · = true) text)

/-- What a slot says. -/
inductive Value
  | figure (x : Float)
  | counter (n : Nat)
deriving Inhabited

namespace Slot

def name : Slot → String
  | figure name _ => name
  | counter name _ => name

def text : Slot → List Char
  | figure _ text => text
  | counter _ text => text

def Fits : Slot → Prop
  | figure _ text => IsToken text
  | counter _ text => IsDigits text

instance : DecidablePred Fits
  | figure _ text => inferInstanceAs (Decidable (IsToken text))
  | counter _ text => inferInstanceAs (Decidable (IsDigits text))

/-- The text in a slot is the text of a number. -/
def Shows : Slot → Value → Prop
  | figure _ text, .figure x => Number.float? text = some x
  | counter _ text, .counter n => Number.counter? text = some n
  | _, _ => False

def Readable (slot : Slot) : Prop := ∃ value, slot.Shows value

end Slot

/-- The names under which a spread is found. -/
def spreadLabels : List String := ["std=", "moe="]

/-- The parts of a mean with its spread. -/
def pairParts (mean : List Char) (label : String) (spread : List Char) : List (List Char) :=
  ["[ mean= ".toList, mean, " ".toList, label.toList, " ".toList, spread, " ]".toList]

/-- The lines of a report: which of the five it is, its slots from left to right, and its parts. -/
inductive LineForm : Nat → List Slot → List (List Char) → Prop
  | link (par drops mean spread : List Char) {label : String} (labeled : label ∈ spreadLabels) :
      LineForm 1
        [.figure "link PAR" par, .counter "queue drops" drops, .figure "PDR mean" mean, .figure "PDR spread" spread]
        (["Link-layer PAR = ".toList, par, " (total of ".toList, drops,
          " packets dropped in queue) End-to-end PDR = ".toList] ++ pairParts mean label spread)
  | totals (sent received : List Char) :
      LineForm 2 [.counter "packets sent" sent, .counter "packets received" received]
        ["Total packets sent = ".toList, sent, " Total packets received = ".toList, received]
  | joining (mean spread time : List Char) {label : String} (labeled : label ∈ spreadLabels) :
      LineForm 3
        [.figure "parent switches mean" mean, .figure "parent switches spread" spread, .figure "time joined" time]
        (["No. of parent switches = ".toList] ++ pairParts mean label spread ++
          [" Avg. time joined = ".toList, time, " s".toList])
  | delay (mean spread jitterMean jitterSpread : List Char) {label jitterLabel : String}
      (labeled : label ∈ spreadLabels) (jitterLabeled : jitterLabel ∈ spreadLabels) :
      LineForm 4
        [.figure "delay mean" mean, .figure "delay spread" spread, .figure "jitter mean" jitterMean,
          .figure "jitter spread" jitterSpread]
        (["End-to-end total delay = ".toList] ++ pairParts mean label spread ++
          [" ms End-to-end total jitter = ".toList] ++ pairParts jitterMean jitterLabel jitterSpread ++
          [" ms".toList])
  | fairness (pdr switches delay jitter : List Char) :
      LineForm 5
        [.figure "PDR index" pdr, .figure "parent switches index" switches, .figure "delay index" delay,
          .figure "jitter index" jitter]
        ["Jain's Justice Index: PDR = ".toList, pdr, " Parent Switches = ".toList, switches, " Delay = ".toList, delay,
          " Jitter = ".toList, jitter]
  | olderFairness (delay : List Char) :
      LineForm 5 [.figure "justice index" delay] ["Jain's Justice Index = ".toList, delay]

/-- A line has the form of the line with this number, with fitting texts in its slots. -/
def HasForm (number : Nat) (line : List Char) (slots : List Slot) : Prop :=
  (∃ parts, LineForm number slots parts ∧ line = parts.flatten) ∧ ∀ slot ∈ slots, slot.Fits

/-- What a line says, slot by slot. -/
def Shows (number : Nat) (line : List Char) (values : List Value) : Prop :=
  ∃ slots, HasForm number line slots ∧ List.Forall₂ Slot.Shows slots values

section

open Shape

variable {shape : Shape} {slots : List (List Char)} {cs : List Char}

theorem describes_text_iff {w : String} :
    Describes (.text w :: shape) slots cs ↔ ∃ rest, cs = w.toList ++ rest ∧ Describes shape slots rest := by
  simp only [Piece.text, describes_oneOf_iff, List.mem_singleton, exists_eq_left]

theorem describes_word_iff :
    Describes (.word :: shape) slots cs ↔ ∃ token more rest, slots = token :: more ∧ cs = token ++ rest ∧
      IsToken token ∧ Describes shape more rest := by
  simp only [Piece.word, describes_run_iff, IsToken, Solid, Bool.not_eq_true', Nat.one_le_iff_ne_zero, ne_eq,
    List.length_eq_zero_iff, and_assoc, and_left_comm]

theorem describes_digits_iff :
    Describes (.digits :: shape) slots cs ↔ ∃ digits more rest, slots = digits :: more ∧ cs = digits ++ rest ∧
      IsDigits digits ∧ Describes shape more rest := by
  simp only [Piece.digits, describes_run_iff, IsDigits, Nat.one_le_iff_ne_zero, ne_eq, List.length_eq_zero_iff,
    and_assoc, and_left_comm]

/-- A mean with its spread has two slots, and either label. -/
theorem describes_pair_iff :
    Describes (pairShape ++ shape) slots cs ↔ ∃ mean label spread more rest, slots = mean :: spread :: more ∧
      cs = (pairParts mean label spread).flatten ++ rest ∧ IsToken mean ∧ label ∈ spreadLabels ∧ IsToken spread ∧
      Describes shape more rest := by
  simp only [pairShape, List.cons_append, List.nil_append, describes_text_iff, describes_word_iff, describes_oneOf_iff]
  constructor
  · rintro ⟨_, rfl, mean, _, _, rfl, rfl, isMean, _, rfl, label, labeled, _, rfl, _, rfl, spread, more, _, rfl, rfl,
      isSpread, rest, rfl, described⟩
    refine ⟨mean, label, spread, more, rest, rfl, ?_, isMean, labeled, isSpread, described⟩
    simp [pairParts]
  · rintro ⟨mean, label, spread, more, rest, rfl, rfl, isMean, labeled, isSpread, described⟩
    refine ⟨_, ?_, mean, _, _, rfl, rfl, isMean, _, rfl, label, labeled, _, rfl, _, rfl, spread, more, _, rfl, rfl,
      isSpread, rest, rfl, described⟩
    simp [pairParts]

end

theorem readAll_link_iff {line : List Char} {texts : List (List Char)} :
    linkShape.readAll line = some texts ↔ ∃ slots, HasForm 1 line slots ∧ texts = slots.map Slot.text := by
  have shape : linkShape = [.text "Link-layer PAR = ", .word, .text " (total of ", .digits,
    .text " packets dropped in queue) End-to-end PDR = "] ++ (pairShape ++ []) := rfl
  rw [Shape.readAll_eq_some_iff (by decide), shape]
  simp only [List.cons_append, List.nil_append, describes_text_iff, describes_word_iff, describes_digits_iff,
    describes_pair_iff, Shape.describes_nil_iff]
  constructor
  · rintro ⟨_, rfl, par, _, _, rfl, rfl, isPar, _, rfl, drops, _, _, rfl, rfl, isDrops, _, rfl, mean, label, spread, _,
      _, rfl, rfl, isMean, labeled, isSpread, rfl, rfl⟩
    exact ⟨_, ⟨⟨_, .link par drops mean spread labeled, by simp⟩, by simp [Slot.Fits, *]⟩, rfl⟩
  · rintro ⟨slots, ⟨⟨_, form, rfl⟩, fits⟩, rfl⟩
    cases form with
    | link par drops mean spread labeled =>
      simp only [List.forall_mem_cons, Slot.Fits] at fits
      obtain ⟨isPar, isDrops, isMean, isSpread, -⟩ := fits
      exact ⟨_, rfl, par, _, _, rfl, rfl, isPar, _, rfl, drops, _, _, rfl, rfl, isDrops, _, rfl, mean, _, spread, _, _,
        rfl, by simp, isMean, labeled, isSpread, rfl, rfl⟩

theorem readAll_totals_iff {line : List Char} {texts : List (List Char)} :
    totalsShape.readAll line = some texts ↔ ∃ slots, HasForm 2 line slots ∧ texts = slots.map Slot.text := by
  rw [Shape.readAll_eq_some_iff (by decide), totalsShape]
  simp only [describes_text_iff, describes_digits_iff, Shape.describes_nil_iff]
  constructor
  · rintro ⟨_, rfl, sent, _, _, rfl, rfl, isSent, _, rfl, received, _, _, rfl, rfl, isReceived, rfl, rfl⟩
    exact ⟨_, ⟨⟨_, .totals sent received, by simp⟩, by simp [Slot.Fits, *]⟩, rfl⟩
  · rintro ⟨slots, ⟨⟨_, form, rfl⟩, fits⟩, rfl⟩
    cases form with
    | totals sent received =>
      simp only [List.forall_mem_cons, Slot.Fits] at fits
      obtain ⟨isSent, isReceived, -⟩ := fits
      exact ⟨_, rfl, sent, _, _, rfl, rfl, isSent, _, rfl, received, _, _, rfl, rfl, isReceived, rfl, rfl⟩

theorem readAll_joining_iff {line : List Char} {texts : List (List Char)} :
    joiningShape.readAll line = some texts ↔ ∃ slots, HasForm 3 line slots ∧ texts = slots.map Slot.text := by
  rw [Shape.readAll_eq_some_iff (by decide), joiningShape]
  simp only [List.cons_append, List.nil_append, describes_text_iff, describes_word_iff, describes_pair_iff,
    Shape.describes_nil_iff]
  constructor
  · rintro ⟨_, rfl, mean, label, spread, _, _, rfl, rfl, isMean, labeled, isSpread, _, rfl, time, _, _, rfl, rfl, isTime,
      _, rfl, rfl, rfl⟩
    exact ⟨_, ⟨⟨_, .joining mean spread time labeled, by simp⟩, by simp [Slot.Fits, *]⟩, rfl⟩
  · rintro ⟨slots, ⟨⟨_, form, rfl⟩, fits⟩, rfl⟩
    cases form with
    | joining mean spread time labeled =>
      simp only [List.forall_mem_cons, Slot.Fits] at fits
      obtain ⟨isMean, isSpread, isTime, -⟩ := fits
      exact ⟨_, by simp, mean, _, spread, _, _, rfl, rfl, isMean, labeled, isSpread, _, rfl, time, _, _, rfl, rfl,
        isTime, _, rfl, rfl, rfl⟩

theorem readAll_delay_iff {line : List Char} {texts : List (List Char)} :
    delayShape.readAll line = some texts ↔ ∃ slots, HasForm 4 line slots ∧ texts = slots.map Slot.text := by
  rw [Shape.readAll_eq_some_iff (by decide), delayShape]
  simp only [List.cons_append, List.nil_append, List.append_assoc, describes_text_iff, describes_pair_iff,
    Shape.describes_nil_iff]
  constructor
  · rintro ⟨_, rfl, mean, label, spread, _, _, rfl, rfl, isMean, labeled, isSpread, _, rfl, jitterMean, jitterLabel,
      jitterSpread, _, _, rfl, rfl, isJitterMean, jitterLabeled, isJitterSpread, _, rfl, rfl, rfl⟩
    exact ⟨_, ⟨⟨_, .delay mean spread jitterMean jitterSpread labeled jitterLabeled, by simp⟩, by simp [Slot.Fits, *]⟩,
      rfl⟩
  · rintro ⟨slots, ⟨⟨_, form, rfl⟩, fits⟩, rfl⟩
    cases form with
    | delay mean spread jitterMean jitterSpread labeled jitterLabeled =>
      simp only [List.forall_mem_cons, Slot.Fits] at fits
      obtain ⟨isMean, isSpread, isJitterMean, isJitterSpread, -⟩ := fits
      exact ⟨_, by simp, mean, _, spread, _, _, rfl, rfl, isMean, labeled, isSpread, _, rfl, jitterMean, _,
        jitterSpread, _, _, rfl, rfl, isJitterMean, jitterLabeled, isJitterSpread, _, rfl, rfl, rfl⟩

theorem readAll_fairness_iff {line : List Char} {texts : List (List Char)} :
    fairnessShape.readAll line = some texts ↔
      ∃ slots, HasForm 5 line slots ∧ slots.length = 4 ∧ texts = slots.map Slot.text := by
  rw [Shape.readAll_eq_some_iff (by decide), fairnessShape]
  simp only [describes_text_iff, describes_word_iff, Shape.describes_nil_iff]
  constructor
  · rintro ⟨_, rfl, pdr, _, _, rfl, rfl, isPdr, _, rfl, switches, _, _, rfl, rfl, isSwitches, _, rfl, delay, _, _, rfl,
      rfl, isDelay, _, rfl, jitter, _, _, rfl, rfl, isJitter, rfl, rfl⟩
    exact ⟨_, ⟨⟨_, .fairness pdr switches delay jitter, by simp⟩, by simp [Slot.Fits, *]⟩, rfl, rfl⟩
  · rintro ⟨slots, ⟨⟨_, form, rfl⟩, fits⟩, count, rfl⟩
    cases form with
    | fairness pdr switches delay jitter =>
      simp only [List.forall_mem_cons, Slot.Fits] at fits
      obtain ⟨isPdr, isSwitches, isDelay, isJitter, -⟩ := fits
      exact ⟨_, rfl, pdr, _, _, rfl, rfl, isPdr, _, rfl, switches, _, _, rfl, rfl, isSwitches, _, rfl, delay, _, _,
        rfl, rfl, isDelay, _, rfl, jitter, _, _, rfl, rfl, isJitter, rfl, rfl⟩
    | olderFairness => cases count

theorem readAll_olderFairness_iff {line : List Char} {texts : List (List Char)} :
    olderFairnessShape.readAll line = some texts ↔
      ∃ slots, HasForm 5 line slots ∧ slots.length = 1 ∧ texts = slots.map Slot.text := by
  rw [Shape.readAll_eq_some_iff (by decide), olderFairnessShape]
  simp only [describes_text_iff, describes_word_iff, Shape.describes_nil_iff]
  constructor
  · rintro ⟨_, rfl, delay, _, _, rfl, rfl, isDelay, rfl, rfl⟩
    exact ⟨_, ⟨⟨_, .olderFairness delay, by simp⟩, by simp [Slot.Fits, *]⟩, rfl, rfl⟩
  · rintro ⟨slots, ⟨⟨_, form, rfl⟩, fits⟩, count, rfl⟩
    cases form with
    | fairness => cases count
    | olderFairness delay =>
      simp only [List.forall_mem_cons, Slot.Fits] at fits
      exact ⟨_, rfl, delay, _, _, rfl, rfl, fits.1, rfl, rfl⟩

/-- The two forms of the last line differ in the character after their first words. -/
theorem readAll_olderFairness_eq_none {line : List Char} {slots : List Slot} (form : HasForm 5 line slots)
    (count : slots.length = 4) : olderFairnessShape.readAll line = none := by
  obtain ⟨⟨_, form, rfl⟩, -⟩ := form
  cases form with
  | fairness => rfl
  | olderFairness => cases count

/-- The names of the slots are known from the line and its form. -/
theorem LineForm.eq_of_texts {number : Nat} {slots others : List Slot} {parts otherParts : List (List Char)}
    (form : LineForm number slots parts) (other : LineForm number others otherParts)
    (texts : slots.map Slot.text = others.map Slot.text) : slots = others := by
  cases form <;> cases other <;> simp_all [Slot.text]

/-- No line has two decompositions. -/
theorem HasForm.unique {number : Nat} {line : List Char} {slots others : List Slot} (form : HasForm number line slots)
    (other : HasForm number line others) : slots = others := by
  obtain ⟨parts, lineForm, -⟩ := form.1
  obtain ⟨otherParts, otherForm, -⟩ := other.1
  refine lineForm.eq_of_texts otherForm (Option.some.inj ?_)
  cases lineForm with
  | link => exact (readAll_link_iff.mpr ⟨_, form, rfl⟩).symm.trans (readAll_link_iff.mpr ⟨_, other, rfl⟩)
  | totals => exact (readAll_totals_iff.mpr ⟨_, form, rfl⟩).symm.trans (readAll_totals_iff.mpr ⟨_, other, rfl⟩)
  | joining => exact (readAll_joining_iff.mpr ⟨_, form, rfl⟩).symm.trans (readAll_joining_iff.mpr ⟨_, other, rfl⟩)
  | delay => exact (readAll_delay_iff.mpr ⟨_, form, rfl⟩).symm.trans (readAll_delay_iff.mpr ⟨_, other, rfl⟩)
  | fairness =>
    have newer := readAll_olderFairness_eq_none form rfl
    cases otherForm with
    | fairness =>
      exact (readAll_fairness_iff.mpr ⟨_, form, rfl, rfl⟩).symm.trans (readAll_fairness_iff.mpr ⟨_, other, rfl, rfl⟩)
    | olderFairness => cases newer.symm.trans (readAll_olderFairness_iff.mpr ⟨_, other, rfl, rfl⟩)
  | olderFairness =>
    have older := readAll_olderFairness_iff.mpr ⟨_, form, rfl, rfl⟩
    cases otherForm with
    | fairness => cases older.symm.trans (readAll_olderFairness_eq_none other rfl)
    | olderFairness => exact older.symm.trans (readAll_olderFairness_iff.mpr ⟨_, other, rfl, rfl⟩)

end MeshTrace.Report
