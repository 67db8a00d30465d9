import MeshTrace.Node.Ledger
import MeshTrace.Proofs.Table

namespace MeshTrace.Ledger

variable (l : Ledger) (seqnum : Seqnum) (time : Millis)

theorem contains_sent_recordSent (other : Seqnum) :
    (l.recordSent seqnum time).1.sent.contains other = true ↔
      l.sent.contains other = true ∨ other = seqnum := by
  unfold recordSent
  split
  · rename_i known
    constructor
    · exact Or.inl
    · rintro (old | rfl)
      · exact old
      · exact known
  · simp [Table.contains_insert, or_comm]

theorem received_recordSent : (l.recordSent seqnum time).1.received = l.received := by
  unfold recordSent
  split <;> rfl

theorem sent_recordReceived : (l.recordReceived seqnum time).1.sent = l.sent := by
  unfold recordReceived
  split
  · rfl
  · split <;> rfl

/-- An arrival is recorded if the number was sent before, then or at an earlier arrival. -/
theorem contains_received_recordReceived (other : Seqnum) :
    (l.recordReceived seqnum time).1.received.contains other = true ↔
      l.received.contains other = true ∨ (other = seqnum ∧ l.sent.contains other = true) := by
  unfold recordReceived
  split
  · rename_i known
    constructor
    · exact Or.inl
    · rintro (old | ⟨rfl, -⟩)
      · exact old
      · exact known
  · split
    · rename_i unsent
      constructor
      · exact Or.inl
      · rintro (old | ⟨rfl, sent⟩)
        · exact old
        · simp [Table.contains, unsent] at sent
    · rename_i sentAt sent
      simp only [Table.contains_insert, Bool.or_eq_true, decide_eq_true_eq]
      constructor
      · rintro (rfl | old)
        · exact Or.inr ⟨rfl, by simp [Table.contains, sent]⟩
        · exact Or.inl old
      · rintro (old | ⟨rfl, -⟩)
        · exact Or.inr old
        · exact Or.inl rfl

theorem sentCount_recordSent :
    (l.recordSent seqnum time).1.sentCount =
      l.sentCount + if (l.recordSent seqnum time).2 = .recorded then 1 else 0 := by
  unfold recordSent
  split
  · rfl
  · rename_i unknown
    exact Table.size_insert_of_not_contains time (by simpa using unknown)

theorem receivedCount_recordSent : (l.recordSent seqnum time).1.receivedCount = l.receivedCount := by
  rw [receivedCount, received_recordSent, receivedCount]

theorem sentCount_recordReceived : (l.recordReceived seqnum time).1.sentCount = l.sentCount := by
  rw [sentCount, sent_recordReceived, sentCount]

theorem receivedCount_recordReceived :
    (l.recordReceived seqnum time).1.receivedCount =
      l.receivedCount +
        match (l.recordReceived seqnum time).2 with
        | .delivered _ => 1
        | _ => 0 := by
  unfold recordReceived
  split
  · rfl
  · rename_i unknown
    split
    · rfl
    · exact Table.size_insert_of_not_contains time (by simpa using unknown)

/-- A packet is recorded if its number is new. -/
theorem recordSent_recorded_iff :
    (l.recordSent seqnum time).2 = .recorded ↔ l.sent.contains seqnum = false := by
  unfold recordSent
  cases l.sent.contains seqnum <;> simp

/-- An arrival is a duplicate if its number has arrived. -/
theorem recordReceived_duplicate_iff :
    (l.recordReceived seqnum time).2 = .duplicate ↔ l.received.contains seqnum = true := by
  unfold recordReceived
  split
  · rename_i known
    simp [known]
  · rename_i unknown
    cases l.sent.get? seqnum <;> simp [unknown]

/-- An arrival is unmatched if its number is new and was never sent. -/
theorem recordReceived_unmatched_iff :
    (l.recordReceived seqnum time).2 = .unmatched ↔
      l.received.contains seqnum = false ∧ l.sent.get? seqnum = none := by
  unfold recordReceived
  split
  · rename_i known
    simp [known]
  · rename_i unknown
    cases sent : l.sent.get? seqnum <;> simp [unknown]

/-- An arrival is delivered if its number is new and was sent, after the time between. -/
theorem recordReceived_delivered_iff (delay : Int) :
    (l.recordReceived seqnum time).2 = .delivered delay ↔
      l.received.contains seqnum = false ∧
        ∃ sentAt, l.sent.get? seqnum = some sentAt ∧ delay = clampTime (time - sentAt) := by
  unfold recordReceived
  split
  · rename_i known
    simp [known]
  · rename_i unknown
    cases sent : l.sent.get? seqnum <;> simp [unknown, eq_comm]

/-- A number that was sent before changes nothing. -/
theorem recordSent_of_duplicate (duplicate : (l.recordSent seqnum time).2 = .duplicate) :
    (l.recordSent seqnum time).1 = l := by
  unfold recordSent at duplicate ⊢
  split
  · rfl
  · rename_i unknown
    simp [unknown] at duplicate

/-- An arrival that is not the delivery of a packet changes nothing. -/
theorem recordReceived_of_not_delivered (undelivered : ∀ delay, (l.recordReceived seqnum time).2 ≠ .delivered delay) :
    (l.recordReceived seqnum time).1 = l := by
  unfold recordReceived at undelivered ⊢
  split
  · rfl
  · rename_i unknown
    split
    · rfl
    · rename_i sentAt sent
      simp [unknown, sent] at undelivered

/-- One delay for each arrival. -/
def Balanced (l : Ledger) : Prop := l.delays.size = l.receivedCount

theorem balanced_empty : empty.Balanced := rfl

variable {l} (balanced : l.Balanced)

include balanced

theorem Balanced.recordSent : (l.recordSent seqnum time).1.Balanced := by
  unfold Ledger.recordSent
  split <;> exact balanced

theorem Balanced.recordReceived : (l.recordReceived seqnum time).1.Balanced := by
  have arrivals := l.receivedCount_recordReceived seqnum time
  unfold Balanced at balanced ⊢
  rw [arrivals, ← balanced]
  unfold Ledger.recordReceived
  split
  · rfl
  · split
    · rfl
    · exact Array.size_push ..

end MeshTrace.Ledger
