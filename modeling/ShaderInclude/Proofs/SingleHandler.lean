import Mathlib.Data.List.Induction
import Mathlib.Logic.Function.Basic
import ShaderInclude.Log.Logger

/-!
# ShaderInclude.Proofs.SingleHandler

The base logger never gets a second handler. It is configured by setups and by requests to factories,
in any order, and a factory configures it only when it is first asked. A `Session` is the base logger
with the factories in use; `Session.run` makes calls one after another.

* `factory_step`, `remembers_run`: the flag of a factory tells whether it was asked. So whether a call
  configures can be read off the calls before it (`Configures`).
* `Remembers.base_step`: a call that configures sets the base logger up; any other leaves it alone.
* `handlers_run`, `level_run`: the first call decides on the handler, the last one that configures on the
  level. `run_single_handler` says both.
-/

namespace ShaderInclude
namespace Log

namespace BaseLogger

@[simp] theorem level_setup (base : BaseLogger) (s : Setup) : (base.setup s).level = s.level := by
  unfold setup
  split <;> rfl

theorem setup_bare {base : BaseLogger} (h : base.handlers = []) (s : Setup) :
    base.setup s = { level := s.level, handlers := [s.handler], propagate := false } := by
  simp [setup, h]

theorem setup_handled {base : BaseLogger} (h : base.handlers ≠ []) (s : Setup) :
    base.setup s = { base with level := s.level } := by
  simp [setup, h]

end BaseLogger

namespace Factory

@[simp] theorem setup_request (f : Factory) (base : BaseLogger) :
    (f.request base).1.setup = f.setup := by
  unfold request
  split <;> rfl

@[simp] theorem configured_request (f : Factory) (base : BaseLogger) :
    (f.request base).1.configured = true := by
  unfold request
  split
  · assumption
  · rfl

end Factory

variable {ι : Type}

/-- A call that may configure the base logger. -/
inductive Call (ι : Type) where
  | setup (s : Setup)
  | request (factory : ι)

/-- What a call asks for, when each factory has settings of its own. -/
def Call.settings (own : ι → Setup) : Call ι → Setup
  | .setup s => s
  | .request i => own i

/-- Whether a call configures, after the calls before it: a request does so if it is the first to its
factory. -/
def Configures (before : List (Call ι)) : Call ι → Prop
  | .setup _ => True
  | .request i => .request i ∉ before

/-- The last of the calls that configures. -/
def LastConfiguring (calls : List (Call ι)) (last : Call ι) : Prop :=
  ∃ earlier later, calls = earlier ++ last :: later ∧ Configures earlier last ∧
    ∀ between c rest, later = between ++ c :: rest → ¬ Configures (earlier ++ last :: between) c

theorem configures_nil (c : Call ι) : Configures [] c := by
  cases c with
  | setup s => trivial
  | request i => exact List.not_mem_nil

theorem lastConfiguring_snoc {calls : List (Call ι)} {c : Call ι} (h : Configures calls c) :
    LastConfiguring (calls ++ [c]) c :=
  ⟨calls, [], rfl, h, by simp⟩

theorem LastConfiguring.snoc {calls : List (Call ι)} {last c : Call ι}
    (h : LastConfiguring calls last) (hc : ¬ Configures calls c) :
    LastConfiguring (calls ++ [c]) last := by
  obtain ⟨earlier, later, rfl, hlast, hlater⟩ := h
  refine ⟨earlier, later ++ [c], by simp, hlast, ?_⟩
  intro between d rest heq
  rcases List.eq_nil_or_concat rest with rfl | ⟨rest, d', rfl⟩
  · obtain ⟨rfl, hd⟩ := List.append_inj' heq rfl
    rw [← List.singleton_inj.1 hd]
    exact hc
  · have hsplit : later ++ [c] = (between ++ d :: rest) ++ [d'] := by simpa using heq
    exact hlater between d rest (List.append_inj' hsplit rfl).1

structure Session (ι : Type) where
  base : BaseLogger
  factories : ι → Factory

namespace Session

/-- Factories that nobody has asked yet. -/
def start (base : BaseLogger) (own : ι → Setup) : Session ι :=
  ⟨base, fun i => { setup := own i }⟩

/-- The factories have their own settings, and are configured if they were asked. -/
structure Remembers (own : ι → Setup) (before : List (Call ι)) (w : Session ι) : Prop where
  setup_eq : ∀ i, (w.factories i).setup = own i
  configured_iff : ∀ i, (w.factories i).configured = true ↔ .request i ∈ before

theorem remembers_start (base : BaseLogger) (own : ι → Setup) :
    Remembers own [] (start base own) where
  setup_eq i := rfl
  configured_iff i := by simp [start]

variable [DecidableEq ι]

def step (w : Session ι) : Call ι → Session ι
  | .setup s => { w with base := w.base.setup s }
  | .request i =>
    let (f, base) := (w.factories i).request w.base
    ⟨base, Function.update w.factories i f⟩

def run (w : Session ι) (calls : List (Call ι)) : Session ι :=
  calls.foldl step w

theorem factory_step (w : Session ι) (c : Call ι) (i : ι) :
    ((w.step c).factories i).setup = (w.factories i).setup ∧
      (((w.step c).factories i).configured = true ↔
        (w.factories i).configured = true ∨ c = .request i) := by
  cases c with
  | setup s => simp [step]
  | request j =>
    by_cases hij : i = j
    · subst hij
      simp [step]
    · simp [step, hij, Ne.symm hij]

theorem Remembers.step {own : ι → Setup} {before : List (Call ι)} {w : Session ι}
    (h : Remembers own before w) (c : Call ι) : Remembers own (before ++ [c]) (w.step c) := by
  constructor
  · intro i
    rw [(w.factory_step c i).1, h.setup_eq]
  · intro i
    rw [(w.factory_step c i).2, h.configured_iff]
    simp [eq_comm]

theorem Remembers.base_step {own : ι → Setup} {before : List (Call ι)} {w : Session ι}
    (h : Remembers own before w) (c : Call ι) :
    Configures before c ∧ (w.step c).base = w.base.setup (c.settings own) ∨
      ¬ Configures before c ∧ (w.step c).base = w.base := by
  cases c with
  | setup s => exact .inl ⟨trivial, rfl⟩
  | request i =>
    by_cases hasked : .request i ∈ before
    · have hdone := (h.configured_iff i).2 hasked
      exact .inr ⟨not_not_intro hasked, by simp [Session.step, Factory.request, hdone]⟩
    · have hnew : (w.factories i).configured = false := by
        rw [← Bool.not_eq_true, h.configured_iff]
        exact hasked
      refine .inl ⟨hasked, ?_⟩
      simp [Session.step, Factory.request, hnew, h.setup_eq, Call.settings]

theorem run_snoc (w : Session ι) (calls : List (Call ι)) (c : Call ι) :
    w.run (calls ++ [c]) = (w.run calls).step c := by
  simp [run]

theorem remembers_run (base : BaseLogger) (own : ι → Setup) (calls : List (Call ι)) :
    Remembers own calls ((start base own).run calls) := by
  induction calls using List.reverseRecOn with
  | nil => exact remembers_start base own
  | append_singleton calls c ih =>
    rw [run_snoc]
    exact ih.step c

theorem handlers_run {base : BaseLogger} (hbare : base.handlers = []) (own : ι → Setup)
    (first : Call ι) (rest : List (Call ι)) :
    ((start base own).run (first :: rest)).base.handlers = [(first.settings own).handler] ∧
      ((start base own).run (first :: rest)).base.propagate = false := by
  induction rest using List.reverseRecOn with
  | nil =>
    rcases (remembers_start base own).base_step first with ⟨_, hbase⟩ | ⟨hnot, _⟩
    · have hrun : ((start base own).run [first]).base = base.setup (first.settings own) := hbase
      rw [hrun, BaseLogger.setup_bare hbare]
      exact ⟨rfl, rfl⟩
    · exact absurd (configures_nil first) hnot
  | append_singleton rest c ih =>
    rw [← List.cons_append, run_snoc]
    -- a later setup finds the handler of the first call
    rcases (remembers_run base own (first :: rest)).base_step c with ⟨_, hbase⟩ | ⟨_, hbase⟩
    · rw [hbase, BaseLogger.setup_handled (by simp [ih.1])]
      exact ih
    · rw [hbase]
      exact ih

theorem level_run (base : BaseLogger) (own : ι → Setup) (calls : List (Call ι)) (hne : calls ≠ []) :
    ∃ last, LastConfiguring calls last ∧
      ((start base own).run calls).base.level = (last.settings own).level := by
  induction calls using List.reverseRecOn with
  | nil => exact absurd rfl hne
  | append_singleton calls c ih =>
    rw [run_snoc]
    rcases (remembers_run base own calls).base_step c with ⟨hc, hbase⟩ | ⟨hc, hbase⟩
    · exact ⟨c, lastConfiguring_snoc hc, by rw [hbase, BaseLogger.level_setup]⟩
    · -- the first call always configures, so there is one before `c`
      have hcalls : calls ≠ [] := by
        rintro rfl
        exact hc (configures_nil c)
      obtain ⟨last, hlast, hlevel⟩ := ih hcalls
      exact ⟨last, hlast.snoc hc, by rw [hbase, hlevel]⟩

/-- However often a base logger without handlers is set up, by whatever factories and calls, it ends up
with one handler and passes nothing on. Stream and format are those that the first call asks for, and the
level is that of the last call that configures. -/
theorem run_single_handler (base : BaseLogger) (hbare : base.handlers = []) (own : ι → Setup)
    (first : Call ι) (rest : List (Call ι)) :
    ((start base own).run (first :: rest)).base.handlers =
      [{ stream := (first.settings own).stream.getD standardError
         format := if (first.settings own).jsonLines then .json version else .plain }] ∧
    ((start base own).run (first :: rest)).base.propagate = false ∧
    ∃ last, LastConfiguring (first :: rest) last ∧
      ((start base own).run (first :: rest)).base.level = (last.settings own).level := by
  obtain ⟨hhandlers, hpropagate⟩ := handlers_run hbare own first rest
  exact ⟨hhandlers, hpropagate, level_run base own (first :: rest) (List.cons_ne_nil first rest)⟩

/-- Two factories with a setup between their first requests, and the first factory asked again. -/
theorem run_single_handler_interleaved :
    let own : Bool → Setup := fun second =>
      if second then { stream := some "file", jsonLines := true, level := Level.error }
      else { level := Level.debug }
    let rest : List (Call Bool) :=
      [.setup { stream := some "log", jsonLines := true }, .request true, .request false]
    let after := ((start {} own).run (.request false :: rest)).base
    ({} : BaseLogger).handlers = [] ∧ after.handlers = [⟨standardError, .plain⟩] ∧
      after.propagate = false ∧ after.level = Level.error ∧
      ∃ last, LastConfiguring (.request false :: rest) last ∧ after.level = (last.settings own).level := by
  intro own rest after
  obtain ⟨hhandlers, hpropagate, hlast⟩ :=
    run_single_handler {} rfl own (.request false) rest
  exact ⟨rfl, hhandlers, hpropagate, rfl, hlast⟩

end Session
end Log
end ShaderInclude
