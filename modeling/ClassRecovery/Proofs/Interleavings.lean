import ClassRecovery.Interleaving
import ClassRecovery.Proofs.Accounts

namespace ClassRecovery

/-!
# What the order of the workers decides

A crew that has finished has recovered each script as it would have been recovered alone.
What its log holds is an interleaving of what the scripts report alone, and any
interleaving can come about.  So the order of two entries from different scripts is open,
and nothing else is: how many there are, and for each name which ones there are and how
those of one script follow one another, is the same in every run.

A worker is compared with the diagnostics that are still due from it.  A step that reports
one takes it off the front of them, and any other step leaves them as they are.
-/

namespace Interleaves

section

variable {α : Type} {parts front back : List (List α)} {whole : List α}

/-- A part that begins with some elements more can give them first. -/
theorem prepend (firsts : List α) {rest : List α}
    (interleaves : Interleaves (front ++ rest :: back) whole) :
    Interleaves (front ++ (firsts ++ rest) :: back) (firsts ++ whole) := by
  induction firsts with
  | nil => exact interleaves
  | cons first firsts hypothesis => exact .cons hypothesis

theorem nil_cons (interleaves : Interleaves parts whole) : Interleaves ([] :: parts) whole := by
  induction interleaves with
  | nil used => exact .nil (List.forall_mem_cons.mpr ⟨rfl, used⟩)
  | @cons front back first rest whole others hypothesis =>
      rw [← List.cons_append] at hypothesis ⊢
      exact .cons hypothesis

/-- Parts can always be put together, one behind the other. -/
theorem flatten (parts : List (List α)) : Interleaves parts parts.flatten := by
  induction parts with
  | nil => exact .nil fun part member => absurd member List.not_mem_nil
  | cons part rest hypothesis =>
      have whole : Interleaves ([] ++ (part ++ []) :: rest) (part ++ rest.flatten) :=
        prepend part hypothesis.nil_cons
      rw [List.append_nil] at whole
      exact whole

/-- Nothing is lost, and nothing is added. -/
theorem perm (interleaves : Interleaves parts whole) : whole.Perm parts.flatten := by
  induction interleaves with
  | nil used => rw [List.flatten_eq_nil_iff.mpr used]
  | @cons front back first rest whole others hypothesis =>
      rw [List.flatten_append, List.flatten_cons] at hypothesis ⊢
      exact (hypothesis.cons first).trans List.perm_middle.symm

/-- One part alone leaves no choice. -/
theorem eq_of_singleton {part : List α} (interleaves : Interleaves [part] whole) :
    whole = part := by
  generalize one : [part] = parts at interleaves
  induction interleaves generalizing part with
  | nil used => exact (used part (one ▸ List.mem_singleton_self part)).symm
  | @cons front back first rest whole others hypothesis =>
      rcases List.append_eq_singleton_iff.mp one.symm with ⟨rfl, same⟩ | ⟨_, impossible⟩
      · rcases List.cons.inj same with ⟨rfl, rfl⟩
        rw [hypothesis rfl]
      · cases impossible

end

/-- Where every part has a key and its elements show it, the elements of one key are put
together from the parts of that key. -/
theorem filter_key {α β : Type} [DecidableEq β] (key : α → β) {keyed : List (β × List α)}
    {whole : List α} (interleaves : Interleaves (keyed.map (·.2)) whole)
    (shown : ∀ part ∈ keyed, ∀ element ∈ part.2, key element = part.1) (chosen : β) :
    Interleaves ((keyed.filter (·.1 == chosen)).map (·.2)) (whole.filter (key · == chosen)) := by
  generalize same : keyed.map (·.2) = parts at interleaves
  induction interleaves generalizing keyed with
  | nil used =>
      refine .nil fun part member => ?_
      rcases List.mem_map.mp member with ⟨pair, filtered, rfl⟩
      exact used pair.2 (same ▸ List.mem_map_of_mem (List.mem_filter.mp filtered).1)
  | @cons front back first rest whole others hypothesis =>
      rcases List.map_eq_append_iff.mp same with ⟨before, behind, rfl, inFront, cut⟩
      rcases List.map_eq_cons_iff.mp cut with ⟨⟨owner, part⟩, after, rfl, own, inBack⟩
      cases own
      rcases List.forall_mem_append.mp shown with ⟨shownBefore, shownBehind⟩
      rcases List.forall_mem_cons.mp shownBehind with ⟨shownHere, shownAfter⟩
      rcases List.forall_mem_cons.mp shownHere with ⟨firstShown, shownRest⟩
      -- What is left of the parts has the same keys.
      have shownLeft : ∀ part ∈ before ++ (owner, rest) :: after,
          ∀ element ∈ part.2, key element = part.1 :=
        List.forall_mem_append.mpr
          ⟨shownBefore, List.forall_mem_cons.mpr ⟨shownRest, shownAfter⟩⟩
      have left := hypothesis shownLeft (by rw [List.map_append, List.map_cons, inFront, inBack])
      simp only [List.filter_append, List.filter_cons, List.map_append, firstShown] at left ⊢
      cases isChosen : owner == chosen with
      | true =>
          simp only [isChosen, if_true, List.map_cons] at left ⊢
          exact .cons left
      | false =>
          simp only [isChosen, Bool.false_eq_true, if_false] at left ⊢
          exact left

end Interleaves

namespace DiagnosticLog

theorem append_nil (log : DiagnosticLog) : log.append [] = log :=
  congrArg DiagnosticLog.mk (List.append_nil log.entries)

theorem append_append (log : DiagnosticLog) (first second : List Diagnostic) :
    (log.append first).append second = log.append (first ++ second) :=
  congrArg DiagnosticLog.mk (List.append_assoc log.entries first second)

end DiagnosticLog

/-! ## One worker -/

namespace Worker

/-- The diagnostics that are still to come from a worker. -/
def due (options : Options) (worker : Worker) : List Diagnostic :=
  (Sweep.ofStatements options worker.pass.ahead).diagnostics worker.name

/-- A worker as it is when it has finished. -/
def finish (options : Options) (worker : Worker) : Worker :=
  ⟨worker.name, worker.pass.run options⟩

/-- What a step notes down for its own script and what it gives to the log agree. -/
theorem diagnostics_of_step? {options : Options} (worker : Worker) {next : Pass}
    (step : worker.pass.step? options = some next) :
    next.notices.filterMap (·.diagnostic? worker.name) =
      worker.pass.notices.filterMap (·.diagnostic? worker.name) ++
        (worker.report? options).toList := by
  rcases (Pass.step?_eq_some_iff _ _ _).mp step with ⟨_, takes⟩
  unfold report?
  cases takes with
  | noMatch nothing =>
      rw [nothing]
      exact (List.append_nil _).symm
  | rejected failure =>
      rw [failure]
      exact Pass.diagnostics_reject worker.pass _ worker.name
  | @recognised offset declaration alternative success =>
      have same := Pass.diagnostics_replace worker.pass offset declaration alternative worker.name
      rw [success]
      exact same.trans (List.append_nil _).symm

theorem due_of_step? {options : Options} (worker : Worker) {next : Pass}
    (step : worker.pass.step? options = some next) :
    worker.due options =
      (worker.report? options).toList ++ (⟨worker.name, next⟩ : Worker).due options := by
  rcases Pass.settles_of_step? step with ⟨node, findings, settles⟩
  have found : findings.filterMap (·.diagnostic? worker.name) = (worker.report? options).toList :=
    List.append_cancel_left
      ((settles.diagnostics worker.name).symm.trans (diagnostics_of_step? worker step))
  rw [due, settles.ahead, ← found]
  exact List.filterMap_append

theorem due_of_finished {options : Options} (worker : Worker)
    (finished : worker.Finished options) : worker.due options = [] := by
  have ahead : worker.pass.ahead = [] :=
    List.drop_eq_nil_of_le ((Pass.step?_eq_none_iff options worker.pass).mp finished)
  rw [due, ahead, Sweep.ofStatements_nil]
  rfl

theorem due_start (options : Options) (script : Script) :
    (start script).due options = (script.recover options).diagnostics :=
  (recover_diagnostics options script.statements script.name).symm

theorem finish_of_step? {options : Options} (worker : Worker) {next : Pass}
    (step : worker.pass.step? options = some next) :
    (⟨worker.name, next⟩ : Worker).finish options = worker.finish options := by
  rw [finish, finish, Pass.run_of_step?_eq_some step]

theorem finish_of_finished {options : Options} (worker : Worker)
    (finished : worker.Finished options) : worker.finish options = worker := by
  rw [finish, Pass.run_of_step?_eq_none finished]

theorem finished_finish (options : Options) (worker : Worker) :
    (worker.finish options).Finished options :=
  Pass.step?_run options worker.pass

end Worker

/-! ## The crew -/

namespace Crew

/-- The runs of a crew end with the workers as they would be alone. -/
theorem outcomes_of_leads {options : Options} {crew final : Crew}
    (leads : Leads options crew final) (finished : final.Finished options) :
    final.outcomes = crew.workers.map fun worker => (worker.finish options).outcome := by
  induction leads using Relation.ReflTransGen.head_induction_on with
  | refl =>
      refine List.map_congr_left fun worker member => ?_
      rw [worker.finish_of_finished (finished worker member)]
  | head first _ hypothesis =>
      rcases first with ⟨front, back, log, worker, step⟩
      rw [hypothesis]
      simp only [List.map_append, List.map_cons, worker.finish_of_step? step]

/-- What a run adds to the log is put together from what was due at its beginning. -/
theorem interleaves_of_leads {options : Options} {crew final : Crew}
    (leads : Leads options crew final) (finished : final.Finished options) :
    ∃ entries, final.log = crew.log.append entries ∧
      Interleaves (crew.workers.map (·.due options)) entries := by
  induction leads using Relation.ReflTransGen.head_induction_on with
  | refl =>
      refine ⟨[], final.log.append_nil.symm, .nil fun part member => ?_⟩
      rcases List.mem_map.mp member with ⟨worker, inCrew, rfl⟩
      exact worker.due_of_finished (finished worker inCrew)
  | head first _ hypothesis =>
      rcases first with ⟨front, back, log, worker, step⟩
      rcases hypothesis with ⟨entries, written, interleaves⟩
      refine ⟨_, written.trans (log.append_append _ entries), ?_⟩
      rw [List.map_append, List.map_cons] at interleaves ⊢
      rw [worker.due_of_step? step]
      exact interleaves.prepend _

/-! ### Every interleaving comes about -/

/-- A worker from which nothing is due can finish without a word. -/
theorem leads_finish {options : Options} {worker : Worker} (silent : worker.due options = [])
    (front back : List Worker) (log : DiagnosticLog) :
    Leads options ⟨front ++ worker :: back, log⟩
      ⟨front ++ worker.finish options :: back, log⟩ := by
  rcases worker with ⟨name, pass⟩
  induction pass using Pass.run.induct options with
  | case1 pass done =>
      rw [Worker.finish_of_finished ⟨name, pass⟩ done]
      exact Relation.ReflTransGen.refl
  | case2 pass next step hypothesis =>
      rw [Worker.due_of_step? ⟨name, pass⟩ step] at silent
      rcases List.append_eq_nil_iff.mp silent with ⟨nothing, silent⟩
      have first := Step.intro front back log ⟨name, pass⟩ step
      rw [nothing, log.append_nil] at first
      rw [← Worker.finish_of_step? ⟨name, pass⟩ step]
      exact Relation.ReflTransGen.head first (hypothesis silent)

/-- A crew from which nothing is due can finish without a word. -/
theorem leads_finish_all {options : Options} {workers : List Worker}
    (silent : ∀ worker ∈ workers, worker.due options = []) (front : List Worker)
    (log : DiagnosticLog) :
    Leads options ⟨front ++ workers, log⟩ ⟨front ++ workers.map (·.finish options), log⟩ := by
  induction workers generalizing front with
  | nil => exact Relation.ReflTransGen.refl
  | cons worker back hypothesis =>
      rcases List.forall_mem_cons.mp silent with ⟨here, others⟩
      have rest := hypothesis others (front ++ [worker.finish options])
      rw [List.append_assoc, List.append_assoc] at rest
      exact (leads_finish here front back log).trans rest

/-- A worker can go on until it has reported the first diagnostic that is due from it. -/
theorem leads_report {options : Options} {worker : Worker} {first : Diagnostic}
    {rest : List Diagnostic} (due : worker.due options = first :: rest) :
    ∃ later : Worker, later.due options = rest ∧
      ∀ (front back : List Worker) (log : DiagnosticLog),
        Leads options ⟨front ++ worker :: back, log⟩
          ⟨front ++ later :: back, log.append [first]⟩ := by
  rcases worker with ⟨name, pass⟩
  induction pass using Pass.run.induct options with
  | case1 pass done =>
      cases due.symm.trans (Worker.due_of_finished ⟨name, pass⟩ done)
  | case2 pass next step hypothesis =>
      have made := fun front back log => Step.intro front back log ⟨name, pass⟩ step
      rw [Worker.due_of_step? ⟨name, pass⟩ step] at due
      cases reported : (⟨name, pass⟩ : Worker).report? options with
      | none =>
          rw [reported] at due
          rcases hypothesis due with ⟨later, left, leads⟩
          refine ⟨later, left, fun front back log => ?_⟩
          have here := made front back log
          rw [reported, Option.toList_none, log.append_nil] at here
          exact Relation.ReflTransGen.head here (leads front back log)
      | some diagnostic =>
          rw [reported] at due
          rcases List.cons.inj due with ⟨rfl, left⟩
          refine ⟨_, left, fun front back log => ?_⟩
          have here := made front back log
          rw [reported] at here
          exact Relation.ReflTransGen.single here

theorem leads_of_interleaves {options : Options} {crew : Crew} {entries : List Diagnostic}
    (interleaves : Interleaves (crew.workers.map (·.due options)) entries) :
    ∃ final, Leads options crew final ∧ final.Finished options ∧
      final.log = crew.log.append entries := by
  rcases crew with ⟨workers, log⟩
  generalize same : workers.map (·.due options) = parts at interleaves
  induction interleaves generalizing workers log with
  | nil used =>
      have silent : ∀ worker ∈ workers, worker.due options = [] := fun worker member =>
        used _ (same ▸ List.mem_map_of_mem member)
      refine ⟨_, leads_finish_all silent [] log, ?_, log.append_nil.symm⟩
      intro worker member
      rcases List.mem_map.mp member with ⟨earlier, _, rfl⟩
      exact earlier.finished_finish options
  | @cons parts others first rest whole _ hypothesis =>
      rcases List.map_eq_append_iff.mp same with ⟨front, behind, rfl, inFront, cut⟩
      rcases List.map_eq_cons_iff.mp cut with ⟨worker, back, rfl, due, inBack⟩
      rcases leads_report due with ⟨later, left, leads⟩
      rcases hypothesis (front ++ later :: back) (log.append [first])
        (by rw [List.map_append, List.map_cons, inFront, inBack, left])
        with ⟨final, onward, finished, written⟩
      refine ⟨final, (leads front back log).trans onward, finished, ?_⟩
      rw [written, log.append_append]
      rfl

theorem due_start (options : Options) (scripts : List Script) :
    (start scripts).workers.map (·.due options) =
      scripts.map fun script => (script.recover options).diagnostics := by
  rw [start, List.map_map]
  exact List.map_congr_left fun script _ => Worker.due_start options script

/-- The log of a crew that has finished. -/
theorem interleaves_of_finished {options : Options} {scripts : List Script} {final : Crew}
    (leads : Leads options (start scripts) final) (finished : final.Finished options) :
    Interleaves (scripts.map fun script => (script.recover options).diagnostics)
      final.log.entries := by
  rcases interleaves_of_leads leads finished with ⟨entries, log, interleaves⟩
  rw [log, ← due_start]
  exact interleaves

/-- Some run leaves the diagnostics in the order of the scripts. -/
theorem leads_logOf (options : Options) (scripts : List Script) :
    ∃ final, Leads options (start scripts) final ∧ final.Finished options ∧
      final.log = logOf (recoverAll options scripts) := by
  have inOrder := Interleaves.flatten ((start scripts).workers.map (·.due options))
  rcases leads_of_interleaves inOrder with ⟨final, leads, finished, written⟩
  refine ⟨final, leads, finished, ?_⟩
  rw [written, due_start, logOf, recoverAll, List.flatMap_map, List.flatMap_def]
  rfl

end Crew

/-! ## What every log has in common -/

section Logs

variable {options : Options} {scripts : List Script} {log : DiagnosticLog}

/-- The entries for a name come from the scripts of that name. -/
theorem interleaves_forScript
    (interleaves : Interleaves (scripts.map fun script => (script.recover options).diagnostics)
      log.entries) (name : String) :
    Interleaves
      ((scripts.filter (·.name == name)).map fun script => (script.recover options).diagnostics)
      (log.forScript name) := by
  have named : (scripts.map fun script =>
      (script.name, (script.recover options).diagnostics)).map (·.2) =
        scripts.map fun script => (script.recover options).diagnostics := List.map_map
  have shown : ∀ part ∈ scripts.map fun script =>
      (script.name, (script.recover options).diagnostics),
        ∀ diagnostic ∈ part.2, diagnostic.script = part.1 := by
    intro part member diagnostic inside
    rcases List.mem_map.mp member with ⟨script, _, rfl⟩
    exact diagnostics_script inside
  rw [← named] at interleaves
  have ofName := interleaves.filter_key (·.script) shown name
  rw [List.filter_map, List.map_map] at ofName
  exact ofName

theorem filter_name_of_unique {front back : List Script} {script : Script}
    (unique : ∀ other ∈ front ++ back, other.name ≠ script.name) :
    (front ++ script :: back).filter (·.name == script.name) = [script] := by
  have noOther : ∀ part : List Script, (∀ other ∈ part, other.name ≠ script.name) →
      part.filter (·.name == script.name) = [] := fun part different =>
    List.filter_eq_nil_iff.mpr fun other member found =>
      different other member (beq_iff_eq.mp found)
  rcases List.forall_mem_append.mp unique with ⟨inFront, inBack⟩
  rw [List.filter_append, noOther front inFront, List.filter_cons, noOther back inBack]
  simp only [beq_self_eq_true, if_true, List.nil_append]

/-- A script that shares its name with no other finds just its own diagnostics under it. -/
theorem forScript_of_unique {front back : List Script} {script : Script}
    (interleaves : Interleaves
      ((front ++ script :: back).map fun script => (script.recover options).diagnostics)
      log.entries)
    (unique : ∀ other ∈ front ++ back, other.name ≠ script.name) :
    log.forScript script.name = (script.recover options).diagnostics := by
  have own := interleaves_forScript interleaves script.name
  rw [filter_name_of_unique unique] at own
  exact own.eq_of_singleton

theorem exists_script_of_mem
    (interleaves : Interleaves (scripts.map fun script => (script.recover options).diagnostics)
      log.entries) {diagnostic : Diagnostic} (member : diagnostic ∈ log.entries) :
    ∃ script ∈ scripts, script.name = diagnostic.script := by
  rcases List.mem_flatten.mp (interleaves.perm.mem_iff.mp member) with ⟨part, inParts, inPart⟩
  rcases List.mem_map.mp inParts with ⟨script, inScripts, rfl⟩
  exact ⟨script, inScripts, (diagnostics_script inPart).symm⟩

end Logs

/-- How many attempts were rejected in all scripts together. -/
def rejectedIn (outcomes : List Outcome) : Nat :=
  outcomes.foldr (fun outcome others => outcome.report.rejected + others) 0

/-- There is one diagnostic for each rejected attempt. -/
theorem length_flatten_diagnostics (options : Options) (scripts : List Script) :
    (scripts.map fun script => (script.recover options).diagnostics).flatten.length =
      rejectedIn (recoverAll options scripts) := by
  induction scripts with
  | nil => rfl
  | cons script rest hypothesis =>
      have own : (script.recover options).diagnostics.length =
          (script.recover options).report.rejected :=
        (Pass.accounted_recover options script.statements).rejections script.name
      rw [List.map_cons, List.flatten_cons, List.length_append, hypothesis, own]
      rfl

/-- A crew can always finish, and when it has, the outcomes are those of the scripts
alone.  Its log is then an interleaving of the diagnostics of the scripts alone, and any
such interleaving is the log of some run.  The log of the whole batch, in the order of the
scripts, is one of them, and for each name it has the diagnostics of the notices for that
name.  Every log has as many entries as there are rejections, its entries for a name are
an interleaving of the diagnostics of the scripts of that name and just the diagnostics of
the script where there is only one, and every entry is for one of the scripts. -/
theorem recoverAll_interleaved (options : Options) (scripts : List Script) :
    (∀ crew, Crew.Leads options (.start scripts) crew →
      ∃ final, Crew.Leads options crew final ∧ final.Finished options) ∧
    (∀ entries,
      Interleaves (scripts.map fun script => (script.recover options).diagnostics) entries ↔
        ∃ final, Crew.Leads options (.start scripts) final ∧ final.Finished options ∧
          final.log.entries = entries) ∧
    (∃ final, Crew.Leads options (.start scripts) final ∧ final.Finished options ∧
      final.log = logOf (recoverAll options scripts)) ∧
    (∀ name, (logOf (recoverAll options scripts)).forScript name =
      (noticesFor (recoverAll options scripts) name).filterMap (·.diagnostic? name)) ∧
    ∀ final, Crew.Leads options (.start scripts) final → final.Finished options →
      final.outcomes = recoverAll options scripts ∧
      final.log.size = rejectedIn (recoverAll options scripts) ∧
      (∀ name,
        Interleaves
          ((scripts.filter (·.name == name)).map fun script =>
            (script.recover options).diagnostics)
          (final.log.forScript name)) ∧
      (∀ front script back, scripts = front ++ script :: back →
        (∀ other ∈ front ++ back, other.name ≠ script.name) →
          final.log.forScript script.name = (script.recover options).diagnostics) ∧
      ∀ diagnostic ∈ final.log.entries, ∃ script ∈ scripts, script.name = diagnostic.script := by
  refine ⟨?_, ?_, Crew.leads_logOf options scripts, forScript_logOf _, ?_⟩
  · intro crew _
    rcases Crew.leads_of_interleaves (Interleaves.flatten (crew.workers.map (·.due options)))
      with ⟨final, leads, finished, _⟩
    exact ⟨final, leads, finished⟩
  · intro entries
    constructor
    · intro interleaves
      rw [← Crew.due_start] at interleaves
      rcases Crew.leads_of_interleaves interleaves with ⟨final, leads, finished, log⟩
      exact ⟨final, leads, finished, congrArg DiagnosticLog.entries log⟩
    · rintro ⟨final, leads, finished, rfl⟩
      exact Crew.interleaves_of_finished leads finished
  · intro final leads finished
    have whole := Crew.interleaves_of_finished leads finished
    refine ⟨?_, ?_, interleaves_forScript whole, ?_, ?_⟩
    · rw [Crew.outcomes_of_leads leads finished, Crew.start, List.map_map]
      rfl
    · rw [DiagnosticLog.size, whole.perm.length_eq, length_flatten_diagnostics]
    · rintro front script back rfl unique
      exact forScript_of_unique whole unique
    · intro diagnostic member
      exact exists_script_of_mem whole member

end ClassRecovery
