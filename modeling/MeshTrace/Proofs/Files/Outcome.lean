import MeshTrace.Files.Loading
import MeshTrace.Files.Saving
import MeshTrace.Proofs.Files.Reordered

namespace MeshTrace.FileTree

/-- Work that may fail, on files held in memory. -/
abbrev Work (β : Type) := ExceptT Failure (StateM FileTree) β

/-- The work comes to the same on both trees, and leaves the same files. -/
def SameOutcome {β : Type} (t t' : FileTree) (work : Work β) : Prop :=
  (work.run t).1 = (work.run t').1 ∧ (work.run t).2.Reordered (work.run t').2

/-- The work does not depend on the order in which directories are enumerated. -/
def Unordered {β : Type} (work : Work β) : Prop := ∀ t t' : FileTree, t.Reordered t' → SameOutcome t t' work

section

variable {β γ : Type}

/-- Work goes on from the files that the work before it has left, unless that failed. -/
theorem run_bind (work : Work β) (next : β → Work γ) (t : FileTree) :
    (work >>= next).run t =
      match work.run t with
      | (.ok b, after) => (next b).run after
      | (.error e, after) => (.error e, after) := by
  change (match work.run t with
    | (result, after) => ExceptT.bindCont next result after) = _
  rcases work.run t with ⟨_ | _, after⟩ <;> rfl

theorem exists_of_run_bind {work : Work β} {next : β → Work γ} {t after : FileTree} {c : γ}
    (ran : (work >>= next).run t = (.ok c, after)) :
    ∃ b between, work.run t = (.ok b, between) ∧ (next b).run between = (.ok c, after) := by
  rw [run_bind] at ran
  split at ran
  · rename_i b between first
    exact ⟨b, between, first, ran⟩
  · cases ran

/-- What is loaded stands in the order of the names. -/
theorem sublist_of_loadEach {load : String → Work β} {names : List String} {t after : FileTree}
    {found : List (String × β)} (loaded : (loadEach load names).run t = (.ok found, after)) :
    (found.map (·.1)).Sublist names := by
  obtain ⟨looked, between, all, rest⟩ := exists_of_run_bind loaded
  obtain rfl : looked.filterMap id = found := Except.ok.inj (congrArg Prod.fst rest)
  clear loaded rest
  induction names generalizing t looked with
  | nil =>
    obtain rfl : [] = looked := Except.ok.inj (congrArg Prod.fst all)
    exact .slnil
  | cons name names ih =>
    rw [List.mapM_cons] at all
    obtain ⟨one, _, first, all⟩ := exists_of_run_bind all
    obtain ⟨others, last, later, all⟩ := exists_of_run_bind all
    obtain rfl : one :: others = looked := Except.ok.inj (congrArg Prod.fst all)
    obtain rfl : last = between := congrArg Prod.snd all
    obtain ⟨outcome, _, -, first⟩ := exists_of_run_bind first
    obtain rfl : outcome.map (fun x => (name, x)) = one := Except.ok.inj (congrArg Prod.fst first)
    cases outcome with
    | none => exact (ih others later).cons name
    | some x => exact (ih others later).cons_cons name

/-- Work with one outcome may be followed by work with one outcome. -/
theorem SameOutcome.bind {t t' : FileTree} {work : Work β} {next : β → Work γ} (first : SameOutcome t t' work)
    (rest : ∀ b, SameOutcome (work.run t).2 (work.run t').2 (next b)) : SameOutcome t t' (work >>= next) := by
  obtain ⟨result, files⟩ := first
  rw [SameOutcome, run_bind, run_bind]
  generalize work.run t = one, work.run t' = other at result files rest ⊢
  obtain ⟨outcome, after⟩ := one
  obtain ⟨outcome', after'⟩ := other
  obtain rfl : outcome = outcome' := result
  cases outcome with
  | ok b => exact rest b
  | error failure => exact ⟨rfl, files⟩

namespace Unordered

theorem pure (b : β) : Unordered (Pure.pure b) := fun _ _ same => ⟨rfl, same⟩

theorem throw (failure : Failure) : Unordered (MonadExcept.throw failure : Work β) := fun _ _ same => ⟨rfl, same⟩

theorem bind {work : Work β} {next : β → Work γ} (first : Unordered work) (rest : ∀ b, Unordered (next b)) :
    Unordered (work >>= next) :=
  fun t t' same => (first t t' same).bind fun b => rest b _ _ (first t t' same).2

theorem mapM {work : γ → Work β} (each : ∀ c, Unordered (work c)) (cs : List γ) : Unordered (cs.mapM work) := by
  induction cs with
  | nil => exact pure []
  | cons c cs ih =>
    rw [List.mapM_cons]
    exact (each c).bind fun b => ih.bind fun bs => pure (b :: bs)

theorem forIn {work : γ → Work PUnit} (each : ∀ c, Unordered (work c)) (cs : List γ) :
    Unordered (ForIn.forIn cs PUnit.unit fun c _ => do work c; Pure.pure (ForInStep.yield PUnit.unit)) := by
  induction cs with
  | nil => exact pure _
  | cons c cs ih =>
    rw [List.forIn_cons, bind_assoc]
    refine (each c).bind fun _ => ?_
    rw [pure_bind]
    exact ih

/-- A step that only looks at the files, and sees the same on both trees. -/
theorem attempt_look {look : FileTree → Except FileError β}
    (same : ∀ t t' : FileTree, t.Reordered t' → look t = look t') (failure : FileError → Failure) :
    Unordered (FileStore.attempt (fun t => (look t, t) : StateM FileTree _) failure) := by
  intro t t' related
  refine ⟨?_, related⟩
  change (look t).mapError failure = (look t').mapError failure
  rw [same t t' related]

/-- A change of files does not depend on the order in directories if the changed files do not. -/
theorem attempt_store {change : FileTree → Except FileError FileTree}
    (same : ∀ t t' : FileTree, t.Reordered t' → Both Reordered (change t) (change t')) (failure : FileError → Failure) :
    Unordered (FileStore.attempt (store change) failure) := by
  intro t t' related
  have both := same t t' related
  change (store change t).1.mapError failure = (store change t').1.mapError failure ∧
    (store change t).2.Reordered (store change t').2
  unfold store
  generalize change t = one, change t' = other at both ⊢
  match one, other, both with
  | .ok after, .ok after', made => exact ⟨rfl, made⟩
  | .error e, .error e', failed =>
    obtain rfl : e = e' := failed
    exact ⟨rfl, related⟩

theorem ifPossible {work : Work β} (unordered : Unordered work) : Unordered (FileStore.ifPossible work) := by
  intro t t' related
  obtain ⟨result, files⟩ := unordered t t' related
  refine ⟨?_, files⟩
  change Except.ok (work.run t).1.toOption = Except.ok (work.run t').1.toOption
  rw [result]

theorem loadEach {load : String → Work β} (each : ∀ name, Unordered (load name)) (names : List String) :
    Unordered (MeshTrace.loadEach load names) := by
  unfold MeshTrace.loadEach
  exact (mapM (fun name => (each name).ifPossible.bind fun _ => pure _) names).bind fun _ => pure _

theorem loadText (source : Source) (path : String) :
    Unordered (FileStore.loadText (m := StateM FileTree) source path) :=
  attempt_look (fun _ _ related => congrArg FileStore.decode (related.read path)) _

theorem loadSettings (path : Option String) : Unordered (Settings.load (m := StateM FileTree) path) := by
  unfold Settings.load
  cases path with
  | none => exact pure _
  | some path =>
    refine (loadText .settings path).bind fun text => ?_
    split
    · exact pure _
    · exact throw _
    · exact throw _

theorem loadTrace (path : String) (s : Settings Float) :
    Unordered (RunSummary.load (m := StateM FileTree) path s) := by
  unfold RunSummary.load
  exact (loadText .trace path).bind fun _ => pure _

theorem loadReport (path : String) : Unordered (Report.loadRun (m := StateM FileTree) path) := by
  unfold Report.loadRun
  refine (loadText .report path).bind fun text => ?_
  split
  · exact pure _
  · exact throw _

theorem makeOutput (directory : String) : Unordered (Report.makeOutput (m := StateM FileTree) directory) :=
  attempt_store (fun _ _ related => related.makeDirectory directory) _

theorem save (product : Product) (path : String) (text : List Char) :
    Unordered (Report.save (m := StateM FileTree) product path text) :=
  attempt_store (fun _ _ related => related.write path text) _

end Unordered

end

end MeshTrace.FileTree
