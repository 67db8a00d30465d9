import MeshTrace.Command.Campaign
import MeshTrace.Proofs.Campaign.Order
import MeshTrace.Proofs.Files.Outcome

namespace MeshTrace

open FileTree

/-- The names of the runs are those of the directories, put in order. -/
theorem run_loadRunNames (directory : String) (t : FileTree) :
    (loadRunNames directory : Work _).run t =
      (((t.subdirectories directory).mapError (.unread .runs directory)).map sortRuns, t) := by
  have looked : (FileStore.attempt (FileStore.subdirectories directory) (.unread .runs directory) : Work _).run t =
    ((t.subdirectories directory).mapError (.unread .runs directory), t) := rfl
  rw [loadRunNames, run_bind, looked]
  cases t.subdirectories directory <;> rfl

theorem run_loadSettings_snd (path : Option String) (t : FileTree) :
    ((Settings.load (m := StateM FileTree) path).run t).2 = t := by
  cases path with
  | none => rfl
  | some path =>
    have looked : ((FileStore.loadText .settings path : Work _).run t).2 = t := rfl
    rw [Settings.load, run_bind]
    generalize (FileStore.loadText .settings path : Work _).run t = found at looked ⊢
    obtain ⟨outcome, after⟩ := found
    obtain rfl : after = t := looked
    cases outcome with
    | error failure => rfl
    | ok text =>
      cases read : Settings.ofText text with
      | ok s => simp only [read]; rfl
      | error fault => cases fault <;> simp only [read] <;> rfl

namespace Command.CampaignCommand

variable (c : CampaignCommand) {t t' : FileTree} {names others : List String}

/-- What is done with the names of the runs does not depend on how directories are enumerated. -/
theorem sameOutcome_figures (s : Settings Float) (related : t.Reordered t')
    (named : t.subdirectories c.runs = .ok names) (named' : t'.subdirectories c.runs = .ok others)
    (order : sortRuns names = sortRuns others) : SameOutcome t t' (c.figures s) := by
  have first := run_loadRunNames c.runs t
  have first' := run_loadRunNames c.runs t'
  rw [named] at first
  rw [named'] at first'
  unfold figures
  refine SameOutcome.bind ⟨?_, ?_⟩ fun names => ?_
  · rw [first, first']
    exact congrArg Except.ok order
  · rw [first, first']
    exact related
  · rw [first, first']
    refine (?_ : Unordered _) t t' related
    dsimp only
    split
    · refine (Unordered.loadEach (fun _ => Unordered.loadTrace _ s) names).bind fun runs => ?_
      split
      · exact (Unordered.forIn (fun _ => Unordered.save _ _ _) _).bind fun _ => Unordered.pure _
      · exact Unordered.pure _
    · exact Unordered.loadEach (fun _ => Unordered.loadReport _) names

/-- Saving the results does not depend on the order in which directories are listed. -/
theorem unordered_saveResults (output : String) (summary : CampaignSummary Float) (document : Document)
    (text : List Char) :
    Unordered (do
      Report.makeOutput output
      Report.saveCampaign output summary
      Report.saveCampaignDocument output document
      return text) :=
  (Unordered.makeOutput output).bind fun _ =>
    (Unordered.save _ _ _).bind fun _ => (Unordered.save _ _ _).bind fun _ => Unordered.pure text

/-- If the runs come in one order, a campaign has one outcome, however the directories are listed. -/
theorem sameOutcome_work (timestamp : String) (related : t.Reordered t')
    (named : t.subdirectories c.runs = .ok names) (named' : t'.subdirectories c.runs = .ok others)
    (order : sortRuns names = sortRuns others) : SameOutcome t t' (c.work timestamp) := by
  unfold work
  refine (Unordered.loadSettings c.settings t t' related).bind fun s => ?_
  rw [run_loadSettings_snd, run_loadSettings_snd]
  have figured := c.sameOutcome_figures (c.choose s) related named named' order
  refine figured.bind fun runs => (?_ : Unordered _) _ _ figured.2
  split
  · exact (Unordered.throw _).bind fun _ => unordered_saveResults _ _ _ _
  · exact unordered_saveResults _ _ _ _

/-- The runs of which figures are found stand in order. -/
theorem sublist_figures {s : Settings Float} {after : FileTree} {runs : List (String × RunScalars Float)}
    (named : t.subdirectories c.runs = .ok names) (found : (c.figures s : Work _).run t = (.ok runs, after)) :
    (runs.map (·.1)).Sublist (sortRuns names) := by
  obtain ⟨ordered, between, first, rest⟩ := exists_of_run_bind found
  rw [run_loadRunNames, named] at first
  obtain rfl : sortRuns names = ordered := Except.ok.inj (congrArg Prod.fst first)
  dsimp only at rest
  split at rest
  · obtain ⟨loaded, _, load, rest⟩ := exists_of_run_bind rest
    have runs_eq : runs = loaded.map fun run => (run.1, run.2.2.scalars) := by
      split at rest
      · obtain ⟨_, _, -, last⟩ := exists_of_run_bind rest
        exact (Except.ok.inj (congrArg Prod.fst last)).symm
      · exact (Except.ok.inj (congrArg Prod.fst rest)).symm
    have labels : runs.map (·.1) = loaded.map (·.1) := by
      rw [runs_eq, List.map_map]
      rfl
    rw [labels]
    exact sublist_of_loadEach load
  · exact sublist_of_loadEach rest

end Command.CampaignCommand

open Command

/-- The runs of a campaign stand in order: first the numbers, none above a later one, then the words in alphabetical
order. Names of the same number keep the order in which directories are enumerated, so that two enumerations lead to the
same order exactly if they agree on these. The figures are taken in that order, and whatever is printed and saved is the
same if the order is. -/
theorem sortRuns_of_enumerations {names others : List String} (distinct : names.Nodup) (same : names.Perm others) :
    (sortRuns names).Perm names ∧ InRunOrder (sortRuns names) ∧
      (sortRuns names = sortRuns others ↔ ∀ n, spellings n names = spellings n others) ∧
      ((names.filterMap runNumber?).Nodup → sortRuns names = sortRuns others) ∧
      ∀ (c : CampaignCommand) (t t' : FileTree), t.Reordered t' →
        t.subdirectories c.runs = .ok names → t'.subdirectories c.runs = .ok others →
        (∀ s runs after, (c.figures s : Work _).run t = (.ok runs, after) →
          (runs.map (·.1)).Sublist (sortRuns names)) ∧
        (sortRuns names = sortRuns others → ∀ timestamp, SameOutcome t t' (c.work timestamp)) := by
  refine ⟨sortRuns_perm names, inRunOrder_sortRuns distinct, sortRuns_eq_iff same, fun apart => ?_, ?_⟩
  · exact (sortRuns_eq_iff same).mpr (spellings_eq_of_perm same apart)
  · intro c t t' related named named'
    exact ⟨fun s runs after found => c.sublist_figures named found,
      fun order timestamp => c.sameOutcome_work timestamp related named named' order⟩

/-- Runs with these names, enumerated in this order. -/
def runsNamed (names : List String) : FileTree := ⟨["runs"] :: names.map fun name => ["runs", name], []⟩

theorem reordered_runsNamed {names others : List String} (same : names.Perm others) :
    (runsNamed names).Reordered (runsNamed others) :=
  ⟨rfl, (same.map _).cons _⟩

theorem subdirectories_runsNamed (names : List String) : (runsNamed names).subdirectories "runs" = .ok names := by
  have there : (runsNamed names).hasDirectory ["runs"] = true := by simp [hasDirectory, runsNamed]
  have place : (runsNamed names).locate? "runs" = some ["runs"] := by
    have way : steps "runs" = ["runs"] := by decide +kernel
    have plain : ("runs".isEmpty || "runs".startsWith "/") = false := by decide +kernel
    have walked : (runsNamed names).walk? [] ["runs"] = some ["runs"] := by simp [walk?, hasDirectory]
    rw [locate?, way, if_neg (Bool.eq_false_iff.mp plain), walked]
    exact Option.filter_eq_some_iff.mpr ⟨rfl, Bool.or_eq_true_iff.mpr (.inr there)⟩
  have runs : (runsNamed names).directories.filter (fun d => d.length = 1 + 1 && d.take 1 = ["runs"]) =
      names.map fun name => ["runs", name] := by
    simp [runsNamed]
  rw [FileTree.subdirectories, place, Option.filter_some, if_pos there]
  change Except.ok (((runsNamed names).directories.filter fun d => d.length = 1 + 1 && d.take 1 = ["runs"]).map _) = _
  rw [runs, List.map_map]
  exact congrArg Except.ok (List.map_id names)

/-- Two runs with a number and one with a name are in one order, whichever is found first. -/
theorem sortRuns_of_enumerations_mixed :
    let c : CampaignCommand := ⟨.reports "analysis_results.txt", "runs", none, none, true⟩
    InRunOrder ["01", "1", "10", "extra"] ∧ sortRuns ["extra", "01", "10", "1"] = ["01", "1", "10", "extra"] ∧
      SameOutcome (runsNamed ["01", "1", "10", "extra"]) (runsNamed ["extra", "01", "10", "1"]) (c.work "now") := by
  intro c
  have distinct : ["01", "1", "10", "extra"].Nodup := by decide
  have same : ["01", "1", "10", "extra"].Perm ["extra", "01", "10", "1"] := by decide
  have sorted : sortRuns ["01", "1", "10", "extra"] = _ := sortRuns_eq_self (by decide +kernel)
  have numbers : ["01", "1", "10", "extra"].map runNumber? = [some 1, some 1, some 10, none] := by decide +kernel
  simp only [List.map_cons, List.map_nil, List.cons.injEq, and_true] at numbers
  have alike (n : Nat) : spellings n ["01", "1", "10", "extra"] = spellings n ["extra", "01", "10", "1"] := by
    simp only [spellings, List.filter_cons, List.filter_nil, numbers, reduceCtorEq, decide_false]
    by_cases ten : 10 = n
    · simp [← ten]
    · simp [ten]
  obtain ⟨-, ordered, agree, -, commands⟩ := sortRuns_of_enumerations distinct same
  have equal := agree.mpr alike
  obtain ⟨-, outcome⟩ := commands c _ _ (reordered_runsNamed same) (subdirectories_runsNamed _)
    (subdirectories_runsNamed _)
  exact ⟨sorted ▸ ordered, equal.symm.trans sorted, outcome equal "now"⟩

/-- Two runs whose names are the same number stand in the order in which their directories are enumerated. -/
theorem loadRunNames_twoSpellings :
    (runsNamed ["1", "01"]).Reordered (runsNamed ["01", "1"]) ∧
      (loadRunNames "runs" : Work _).run (runsNamed ["1", "01"]) = (.ok ["1", "01"], runsNamed ["1", "01"]) ∧
      (loadRunNames "runs" : Work _).run (runsNamed ["01", "1"]) = (.ok ["01", "1"], runsNamed ["01", "1"]) := by
  have first : sortRuns ["1", "01"] = ["1", "01"] := sortRuns_eq_self (by decide +kernel)
  have second : sortRuns ["01", "1"] = ["01", "1"] := sortRuns_eq_self (by decide +kernel)
  refine ⟨reordered_runsNamed (List.Perm.swap ..), ?_, ?_⟩
  · rw [run_loadRunNames, subdirectories_runsNamed]
    exact congrArg (fun names => (Except.ok names, _)) first
  · rw [run_loadRunNames, subdirectories_runsNamed]
    exact congrArg (fun names => (Except.ok names, _)) second

end MeshTrace
