import Mathlib.Data.Finset.Filter
import Mathlib.Data.List.Induction
import Mathlib.Data.List.TakeWhile
import MeshTrace.Proofs.Ledger.Record

namespace MeshTrace.Ledger

/-- What is posted to a ledger: that a packet was sent, or that it arrived. -/
inductive Posting
  | sent (seqnum : Seqnum) (time : Millis)
  | received (seqnum : Seqnum) (time : Millis)
  deriving DecidableEq, Repr

/-- What becomes of a posting. -/
inductive Outcome
  | sent (outcome : SendOutcome)
  | received (outcome : ReceiveOutcome)
  deriving DecidableEq, Repr

namespace Posting

def sent? : Posting → Option Seqnum
  | sent seqnum _ => some seqnum
  | received _ _ => none

def received? : Posting → Option Seqnum
  | sent _ _ => none
  | received seqnum _ => some seqnum

/-- When the packet of this number is sent, if the posting tells that. -/
def sentAt? (seqnum : Seqnum) : Posting → Option Millis
  | sent other time => if other = seqnum then some time else none
  | received _ _ => none

theorem isSome_sentAt? {seqnum : Seqnum} {p : Posting} :
    (p.sentAt? seqnum).isSome = true ↔ p.sent? = some seqnum := by
  cases p with
  | sent other time => by_cases same : other = seqnum <;> simp [sentAt?, sent?, same]
  | received other time => simp [sentAt?, sent?]

end Posting

/-- The delay of a delivery. -/
def Outcome.delay? : Outcome → Option Int
  | received (.delivered delay) => some delay
  | _ => none

def post (l : Ledger) : Posting → Ledger × Outcome
  | .sent seqnum time => ((l.recordSent seqnum time).1, .sent (l.recordSent seqnum time).2)
  | .received seqnum time => ((l.recordReceived seqnum time).1, .received (l.recordReceived seqnum time).2)

/-- The ledger after all these postings. -/
def postAll (l : Ledger) (postings : List Posting) : Ledger := postings.foldl (fun l p => (l.post p).1) l

/-- What becomes of these postings, one after the other. -/
def outcomes (l : Ledger) : List Posting → List Outcome
  | [] => []
  | p :: later => (l.post p).2 :: (l.post p).1.outcomes later

/-- The numbers of the packets that were sent. -/
def sentNumbers (postings : List Posting) : Finset Seqnum := (postings.filterMap Posting.sent?).toFinset

/-- When the packet of this number was sent first. -/
def firstSent? (seqnum : Seqnum) (postings : List Posting) : Option Millis :=
  (postings.filterMap (Posting.sentAt? seqnum)).head?

/-- Whether a packet of this number arrives after it was first sent. -/
def Arrives (seqnum : Seqnum) (postings : List Posting) : Prop :=
  ∃ p ∈ postings.dropWhile (·.sent? ≠ some seqnum), p.received? = some seqnum

instance (seqnum : Seqnum) (postings : List Posting) : Decidable (Arrives seqnum postings) :=
  inferInstanceAs (Decidable (∃ p ∈ _, _))

/-- The numbers of the packets that arrive after they were first sent. -/
def arrivedNumbers (postings : List Posting) : Finset Seqnum :=
  (sentNumbers postings).filter fun seqnum => Arrives seqnum postings

/-- Whether the posting at this place was the delivery of the packet of this number. -/
def DeliveredAt (postings : List Posting) (answers : List Outcome) (seqnum : Seqnum) (place : Nat) : Prop :=
  (∃ time, postings[place]? = some (.received seqnum time)) ∧
    ∃ delay, answers[place]? = some (.received (.delivered delay))

theorem mem_sentNumbers {postings : List Posting} {seqnum : Seqnum} :
    seqnum ∈ sentNumbers postings ↔ ∃ p ∈ postings, p.sent? = some seqnum := by
  simp [sentNumbers]

/-- Before the packet was sent, the search for its first sending runs to the end. -/
theorem dropWhile_eq_nil_iff {postings : List Posting} {seqnum : Seqnum} :
    postings.dropWhile (·.sent? ≠ some seqnum) = [] ↔ seqnum ∉ sentNumbers postings := by
  simp [mem_sentNumbers, List.dropWhile_eq_nil_iff]

/-- The numbers that arrived are those received after they were sent. -/
theorem mem_arrivedNumbers {postings : List Posting} {seqnum : Seqnum} :
    seqnum ∈ arrivedNumbers postings ↔ Arrives seqnum postings := by
  rw [arrivedNumbers, Finset.mem_filter]
  refine and_iff_right_of_imp fun ⟨p, member, _⟩ => ?_
  by_contra unsent
  rw [dropWhile_eq_nil_iff.mpr unsent] at member
  cases member

section

variable (postings : List Posting) (p : Posting) (seqnum : Seqnum)

theorem mem_sentNumbers_snoc :
    seqnum ∈ sentNumbers (postings ++ [p]) ↔ seqnum ∈ sentNumbers postings ∨ p.sent? = some seqnum := by
  simp only [mem_sentNumbers, List.mem_append, List.mem_singleton, or_and_right, exists_or, exists_eq_left]

/-- Only the first time at which a number was sent counts. -/
theorem firstSent?_snoc :
    firstSent? seqnum (postings ++ [p]) = (firstSent? seqnum postings).or (p.sentAt? seqnum) := by
  rw [firstSent?, List.filterMap_append, List.head?_append]
  cases given : p.sentAt? seqnum <;> simp [given, firstSent?]

/-- A number arrives when it is received and was sent before. -/
theorem arrives_snoc :
    Arrives seqnum (postings ++ [p]) ↔
      Arrives seqnum postings ∨ (p.received? = some seqnum ∧ seqnum ∈ sentNumbers postings) := by
  unfold Arrives
  rw [List.dropWhile_append]
  by_cases sent : seqnum ∈ sentNumbers postings
  · have found : ¬(postings.dropWhile (·.sent? ≠ some seqnum)).isEmpty = true := by
      rw [List.isEmpty_iff]
      exact fun nothing => dropWhile_eq_nil_iff.mp nothing sent
    rw [if_neg found, and_iff_left sent]
    simp only [List.mem_append, List.mem_singleton, or_and_right, exists_or, exists_eq_left]
  · rw [dropWhile_eq_nil_iff.mpr sent]
    cases p <;> simp [sent, Posting.sent?, Posting.received?, List.dropWhile_cons]

end

section

variable (l : Ledger) (p : Posting) (seqnum : Seqnum)

theorem get?_sent_post : (l.post p).1.sent.get? seqnum = (l.sent.get? seqnum).or (p.sentAt? seqnum) := by
  cases p with
  | sent other time =>
    simp only [post, recordSent, Posting.sentAt?]
    split
    · rename_i known
      obtain ⟨first, kept⟩ := Option.isSome_iff_exists.mp known
      by_cases same : other = seqnum
      · rw [← same, kept, Option.some_or]
      · rw [if_neg same, Option.or_none]
    · rename_i unknown
      have unkept : l.sent.get? other = none := by simpa [Table.contains] using unknown
      by_cases same : other = seqnum
      · simp [Table.insert, Table.get?_update, ← same, unkept]
      · simp [Table.insert, Table.get?_update, same, Ne.symm same]
  | received other time => simp [post, sent_recordReceived, Posting.sentAt?]

theorem contains_received_post :
    (l.post p).1.received.contains seqnum = true ↔
      l.received.contains seqnum = true ∨ (p.received? = some seqnum ∧ l.sent.contains seqnum = true) := by
  cases p with
  | sent other time => simp [post, received_recordSent, Posting.received?]
  | received other time =>
    simp only [post, contains_received_recordReceived, Posting.received?, Option.some.injEq, eq_comm (a := other)]

/-- A number is among the arrivals after a posting if it was before, or the posting is the delivery. -/
theorem contains_received_post_iff_delivered :
    (l.post p).1.received.contains seqnum = true ↔
      l.received.contains seqnum = true ∨
        (∃ time, p = .received seqnum time) ∧ ∃ delay, (l.post p).2 = .received (.delivered delay) := by
  rw [contains_received_post]
  cases p with
  | sent other time => simp [Posting.received?]
  | received other time =>
    simp only [Posting.received?, Option.some.injEq, Posting.received.injEq, post, Outcome.received.injEq,
      recordReceived_delivered_iff]
    cases known : l.received.contains seqnum with
    | true => simp
    | false =>
      simp only [Bool.false_eq_true, false_or]
      constructor
      · rintro ⟨rfl, sent⟩
        obtain ⟨sentAt, kept⟩ := Option.isSome_iff_exists.mp sent
        exact ⟨⟨time, rfl, rfl⟩, _, known, sentAt, kept, rfl⟩
      · rintro ⟨⟨_, rfl, -⟩, _, -, sentAt, kept, -⟩
        exact ⟨rfl, Option.isSome_iff_exists.mpr ⟨sentAt, kept⟩⟩

/-- A posting adds the delay of its outcome, if that has one. -/
theorem toList_delays_post : (l.post p).1.delays.toList = l.delays.toList ++ (l.post p).2.delay?.toList := by
  cases p with
  | sent seqnum time =>
    simp only [post, recordSent]
    split <;> simp [Outcome.delay?]
  | received seqnum time =>
    simp only [post, recordReceived]
    split
    · simp [Outcome.delay?]
    · split <;> simp [Outcome.delay?]

theorem Balanced.post {l : Ledger} (balanced : l.Balanced) (p : Posting) : (l.post p).1.Balanced := by
  cases p with
  | sent seqnum time => exact balanced.recordSent seqnum time
  | received seqnum time => exact balanced.recordReceived seqnum time

end

theorem postAll_snoc (l : Ledger) (postings : List Posting) (p : Posting) :
    l.postAll (postings ++ [p]) = ((l.postAll postings).post p).1 := by
  rw [postAll, List.foldl_append]
  rfl

theorem getElem?_outcomes (l : Ledger) (postings : List Posting) (k : Nat) :
    (l.outcomes postings)[k]? = postings[k]?.map fun p => ((l.postAll (postings.take k)).post p).2 := by
  induction postings generalizing l k with
  | nil => rfl
  | cons p later ih =>
    cases k with
    | zero => rfl
    | succ k => exact ih (l.post p).1 k

theorem length_outcomes (l : Ledger) (postings : List Posting) : (l.outcomes postings).length = postings.length := by
  induction postings generalizing l with
  | nil => rfl
  | cons p later ih => exact congrArg (· + 1) (ih (l.post p).1)

/-- The delays are those of the outcomes, in their order. -/
theorem toList_delays_postAll (l : Ledger) (postings : List Posting) :
    (l.postAll postings).delays.toList =
      l.delays.toList ++ (l.outcomes postings).filterMap Outcome.delay? := by
  induction postings generalizing l with
  | nil => simp [postAll, outcomes]
  | cons p later ih =>
    have rest : l.postAll (p :: later) = (l.post p).1.postAll later := rfl
    rw [rest, ih, toList_delays_post, outcomes, List.append_assoc]
    cases delay : (l.post p).2.delay? <;> simp [delay]

section

variable (postings : List Posting) (seqnum : Seqnum)

/-- A ledger keeps when each number was sent first. -/
theorem get?_sent_postAll : (empty.postAll postings).sent.get? seqnum = firstSent? seqnum postings := by
  induction postings using List.reverseRecOn with
  | nil => rfl
  | append_singleton postings p ih => rw [postAll_snoc, get?_sent_post, ih, firstSent?_snoc]

theorem contains_sent_postAll :
    (empty.postAll postings).sent.contains seqnum = true ↔ seqnum ∈ sentNumbers postings := by
  rw [Table.contains, get?_sent_postAll]
  induction postings using List.reverseRecOn with
  | nil => simp [firstSent?, sentNumbers]
  | append_singleton postings p ih =>
    rw [firstSent?_snoc, mem_sentNumbers_snoc, ← ih, Option.isSome_or, Bool.or_eq_true, Posting.isSome_sentAt?]

/-- A ledger keeps the arrivals of the packets that were sent before. -/
theorem contains_received_postAll :
    (empty.postAll postings).received.contains seqnum = true ↔ Arrives seqnum postings := by
  induction postings using List.reverseRecOn with
  | nil => simp [postAll, empty, Arrives]
  | append_singleton postings p ih =>
    rw [postAll_snoc, contains_received_post, ih, contains_sent_postAll, arrives_snoc]

/-- The arrivals kept at some point of a history are those delivered before it. -/
theorem contains_received_take (k : Nat) :
    (empty.postAll (postings.take k)).received.contains seqnum = true ↔
      ∃ j < k, DeliveredAt postings (empty.outcomes postings) seqnum j := by
  induction k with
  | zero => simp [postAll, empty]
  | succ k ih =>
    have now : DeliveredAt postings (empty.outcomes postings) seqnum k ↔
        ∃ p, postings[k]? = some p ∧ (∃ time, p = .received seqnum time) ∧
          ∃ delay, ((empty.postAll (postings.take k)).post p).2 = .received (.delivered delay) := by
      simp only [DeliveredAt, getElem?_outcomes]
      cases postings[k]? <;> simp only [Option.map_none, Option.map_some, Option.some.injEq, reduceCtorEq,
        exists_false, false_and, exists_eq_left']
    have last : (∃ j < k + 1, DeliveredAt postings (empty.outcomes postings) seqnum j) ↔
        (∃ j < k, DeliveredAt postings (empty.outcomes postings) seqnum j) ∨
          DeliveredAt postings (empty.outcomes postings) seqnum k := by
      simp only [Nat.lt_succ_iff_lt_or_eq, or_and_right, exists_or, exists_eq_left]
    rw [last, ← ih, now, List.take_add_one]
    cases posted : postings[k]? with
    | none => simp
    | some p =>
      rw [Option.toList_some, postAll_snoc, contains_received_post_iff_delivered]
      simp only [Option.some.injEq, exists_eq_left']

/-- Whatever is posted, the ledger is balanced. -/
theorem balanced_postAll : (empty.postAll postings).Balanced := by
  induction postings using List.reverseRecOn with
  | nil => exact balanced_empty
  | append_singleton postings p ih =>
    rw [postAll_snoc]
    exact ih.post p

end

/-- What a ledger that held nothing says to a history of postings, and what it holds after them. -/
structure History (postings : List Posting) (answers : List Outcome) (l : Ledger) : Prop where
  answered : answers.length = postings.length
  /-- A packet sent is recorded if its number was not sent before, else it is a duplicate. -/
  sending : ∀ (k : Nat) (seqnum : Seqnum) (time : Millis), postings[k]? = some (.sent seqnum time) →
    ∃ outcome, answers[k]? = some (.sent outcome) ∧
      (outcome = .recorded ↔ seqnum ∉ sentNumbers (postings.take k))
  /-- An arrival is a duplicate if an earlier one of its number was delivered, unmatched if its number was
  not sent before, and else delivered, with the time since it was sent first as its delay. -/
  arrival : ∀ (k : Nat) (seqnum : Seqnum) (time : Millis), postings[k]? = some (.received seqnum time) →
    ∃ outcome, answers[k]? = some (.received outcome) ∧
      (outcome = .duplicate ↔ ∃ j < k, DeliveredAt postings answers seqnum j) ∧
      (outcome = .unmatched ↔ seqnum ∉ sentNumbers (postings.take k)) ∧
      ∀ delay, outcome = .delivered delay ↔
        (¬∃ j < k, DeliveredAt postings answers seqnum j) ∧
          ∃ first, firstSent? seqnum (postings.take k) = some first ∧ delay = clampTime (time - first)
  sentCount : l.sentCount = (sentNumbers postings).card
  receivedCount : l.receivedCount = (arrivedNumbers postings).card
  delays : l.delays.toList = answers.filterMap Outcome.delay?
  received_eq_delays : l.receivedCount = l.delays.size
  received_le_sent : l.receivedCount ≤ l.sentCount

/-- A packet is recorded if its number was not sent before. -/
theorem sending_outcomes {postings : List Posting} {k : Nat} {seqnum : Seqnum} {time : Millis}
    (posted : postings[k]? = some (.sent seqnum time)) :
    ∃ outcome, (empty.outcomes postings)[k]? = some (.sent outcome) ∧
      (outcome = .recorded ↔ seqnum ∉ sentNumbers (postings.take k)) := by
  refine ⟨_, by rw [getElem?_outcomes, posted]; rfl, ?_⟩
  rw [recordSent_recorded_iff, ← contains_sent_postAll, Bool.not_eq_true]

/-- What becomes of an arrival is known from the postings before it. -/
theorem arrival_outcomes {postings : List Posting} {k : Nat} {seqnum : Seqnum} {time : Millis}
    (posted : postings[k]? = some (.received seqnum time)) :
    ∃ outcome, (empty.outcomes postings)[k]? = some (.received outcome) ∧
      (outcome = .duplicate ↔ ∃ j < k, DeliveredAt postings (empty.outcomes postings) seqnum j) ∧
      (outcome = .unmatched ↔ seqnum ∉ sentNumbers (postings.take k)) ∧
      ∀ delay, outcome = .delivered delay ↔
        (¬∃ j < k, DeliveredAt postings (empty.outcomes postings) seqnum j) ∧
          ∃ first, firstSent? seqnum (postings.take k) = some first ∧ delay = clampTime (time - first) := by
  let l := empty.postAll (postings.take k)
  have arrived := contains_received_take postings seqnum k
  have sent := contains_sent_postAll (postings.take k) seqnum
  refine ⟨(l.recordReceived seqnum time).2, by rw [getElem?_outcomes, posted]; rfl, ?_, ?_, fun delay => ?_⟩
  · rw [recordReceived_duplicate_iff, arrived]
  · -- A number that was not sent before cannot have arrived.
    have covered : l.received.contains seqnum = true → l.sent.contains seqnum = true := by
      rw [contains_received_postAll, ← mem_arrivedNumbers, sent]
      exact fun arrives => (Finset.mem_filter.mp arrives).1
    have unsent : l.sent.get? seqnum = none ↔ ¬l.sent.contains seqnum = true := by simp [Table.contains]
    rw [recordReceived_unmatched_iff, unsent, ← sent, ← Bool.not_eq_true]
    exact and_iff_right_of_imp (mt covered)
  · rw [recordReceived_delivered_iff, ← arrived, Bool.not_eq_true, get?_sent_postAll]

/-- Every history of postings is told by the ledger in full: each answer follows from the postings before it,
and the counts and delays from all of them. -/
theorem history_outcomes (postings : List Posting) :
    History postings (empty.outcomes postings) (empty.postAll postings) where
  answered := length_outcomes empty postings
  sending _ _ _ := sending_outcomes
  arrival _ _ _ := arrival_outcomes
  sentCount := Table.size_eq_card (contains_sent_postAll postings)
  receivedCount := Table.size_eq_card fun seqnum =>
    (contains_received_postAll postings seqnum).trans mem_arrivedNumbers.symm
  delays := toList_delays_postAll empty postings
  received_eq_delays := (balanced_postAll postings).symm
  received_le_sent := by
    refine Table.size_le_of_contains fun seqnum arrived => ?_
    rw [contains_received_postAll, ← mem_arrivedNumbers] at arrived
    exact (contains_sent_postAll postings seqnum).mpr (Finset.mem_filter.mp arrived).1

/-- An arrival comes too early, the packet is sent twice over, and its delay is longer than times go. -/
example :
    empty.outcomes [.received 7 10, .sent 7 timeMin, .sent 7 0, .received 7 timeMax, .received 7 5] =
      [.received .unmatched, .sent .recorded, .sent .duplicate, .received (.delivered timeMax),
        .received .duplicate] := by decide

end MeshTrace.Ledger
