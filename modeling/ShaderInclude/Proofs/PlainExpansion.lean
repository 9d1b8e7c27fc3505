import ShaderInclude.Proofs.Layout
import ShaderInclude.Resolver

/-!
# ShaderInclude.Proofs.PlainExpansion

Expansion as a plain recursion: `expand` goes through the lines of a file in order and puts the
result together as it goes, with no buffer, no positions and no list of pending directives.

The resolver works differently. It collects the directives of a file first, edits a buffer in place,
and corrects their positions by a running offset. `AtLine` is the invariant of that loop: the buffer
holds the expansion of the lines already passed, then the lines still to come, and the offset is the
difference between the two ways to count. `AtLine.pass`, `AtLine.blank` and `AtLine.splice` say what
one line does to it, and `tracedJobs_agrees` what the loop does. `tracedFile_agrees` follows by
induction on the levels that are left, and `resolve_refines_expand` says it of the resolver.

Where the recursion ends without lines it says why (`Stop`). The resolver raises what is due then, with
one exception: about a file that is too deep it has nothing to say if it cannot write the depth limit
(`Stop.raised_eq_due_iff`).

The simulation also carries the outline of the expansion (`Realizes`), from which the origins of the
merged lines, the segments and the calls are read.
-/

namespace ShaderInclude
namespace Expansion

/-! ## The plain recursion -/

/-- Why the plain recursion ends without lines. -/
inductive Stop where
  /-- The last file of the chain is too deep. -/
  | tooDeep (chain : List String)
  /-- A file has no text to go on with. -/
  | unloaded (e : Raised)
deriving DecidableEq

namespace Stop

/-- What is to be reported, under a depth limit. -/
def due (maxDepth : Int) : Stop → Raised
  | .tooDeep chain => .error (.tooDeep chain maxDepth)
  | .unloaded e => e

/-- What is raised, under a depth limit. -/
def raised (maxDepth : Int) : Stop → Raised
  | .tooDeep chain => .tooDeep chain maxDepth
  | .unloaded e => e

theorem raised_eq_due_iff (maxDepth : Int) (s : Stop) :
    s.raised maxDepth = s.due maxDepth ↔ ∀ chain, s = .tooDeep chain → Text.Writable maxDepth := by
  cases s with
  | unloaded e => simp [raised, due]
  | tooDeep chain =>
    by_cases h : Text.Writable maxDepth
    · simp [raised, due, Raised.tooDeep_of_writable chain h, h]
    · simp [raised, due, Raised.tooDeep_of_not_writable chain h, Raised.unwritable, h]

end Stop

/-- Lines put before those of a result. -/
def prepend (block : List String) :
    Except Stop (List String × Finset String) → Except Stop (List String × Finset String)
  | .error e => .error e
  | .ok (out, used) => .ok (block ++ out, used)

/-- The lines of a file, with its directives worked off one by one. A directive whose file is used
already leaves an empty line; `expand` expands the others. -/
def expandLines (expand : String → Finset String → Except Stop (List String × Finset String))
    (file : String) : List String → Finset String → Except Stop (List String × Finset String)
  | [], used => .ok ([], used)
  | line :: rest, used =>
    match Directive.target? line with
    | none => prepend [line] (expandLines expand file rest used)
    | some target =>
      if targetOf file target ∈ used then prepend [""] (expandLines expand file rest used)
      else
        match expand (targetOf file target) used with
        | .error e => .error e
        | .ok (inner, used') => prepend inner (expandLines expand file rest used')

/-- The lines that a file expands to, and the files used then; `above` are the files from the root
to the one that includes it. -/
def expand (load : String → Except Raised String) (maxDepth : Int) (above : List String)
    (path : String) (used : Finset String) : Except Stop (List String × Finset String) :=
  if maxDepth < above.length then .error (.tooDeep (above ++ [path]))
  else
    match load path with
    | .error e => .error (.unloaded e)
    | .ok text =>
      expandLines (fun target used => expand load maxDepth (above ++ [path]) target used) path
        (Text.lines text) (insert path used)
termination_by (maxDepth + 1 - above.length).toNat
decreasing_by
  simp only [List.length_append, List.length_singleton]
  omega

theorem expand_insert (load : String → Except Raised String) (maxDepth : Int) (above : List String)
    (path : String) (used : Finset String) :
    expand load maxDepth above path (insert path used) = expand load maxDepth above path used := by
  rw [expand, expand, Finset.insert_idem]

/-! ## Progress of a run -/

/-- The path that an event loads. -/
def Event.loaded? : Event → Option String
  | .load path => some path
  | .skip _ _ _ => none

namespace Progress

/-- The files loaded so far, in order. -/
def loads (p : Progress) : List String :=
  p.events.filterMap Event.loaded?

@[simp] theorem loads_use (p : Progress) (path : String) : (p.use path).loads = p.loads := by
  unfold use
  split <;> rfl

@[simp] theorem loads_log_load (p : Progress) (path : String) :
    (p.log (.load path)).loads = p.loads ++ [path] := by
  simp [loads, log, Event.loaded?]

@[simp] theorem loads_log_skip (p : Progress) (file : String) (line : Nat) (target : String) :
    (p.log (.skip file line target)).loads = p.loads := by
  simp [loads, log, Event.loaded?]

theorem use_use (p : Progress) (path : String) : (p.use path).use path = p.use path := by
  by_cases h : path ∈ p.used
  · simp [use, h]
  · simp [use, h]

@[simp] theorem used_log (p : Progress) (e : Event) : (p.log e).used = p.used := rfl

@[simp] theorem used_use (p : Progress) (path : String) :
    (p.use path).used.toFinset = insert path p.used.toFinset := by
  unfold use
  split
  · next h => simp [List.contains_iff_mem.1 h]
  · ext f
    simp

end Progress

/-! ## Directives as jobs -/

/-- The jobs of the lines of a file from line `k` on. -/
def jobsOf (file : String) (k : Nat) : List String → List Job
  | [] => []
  | line :: rest =>
    match Directive.target? line with
    | none => jobsOf file (k + 1) rest
    | some target => ⟨k, targetOf file target⟩ :: jobsOf file (k + 1) rest

theorem jobs_eq (file : String) (k : Nat) (ls : List String) :
    jobs file ((ls.zipIdx k).filterMap fun (line, i) => (Directive.target? line).map (Directive.mk i))
      = .ok (jobsOf file k ls) := by
  induction ls generalizing k with
  | nil => rfl
  | cons line rest ih =>
    cases h : Directive.target? line with
    | none =>
      simpa only [List.zipIdx_cons, List.filterMap_cons, jobsOf, h, Option.map_none] using ih (k + 1)
    | some target =>
      simp only [List.zipIdx_cons, List.filterMap_cons, jobsOf, h, Option.map_some, jobs,
        targetPath_eq, ih (k + 1)]

theorem jobs_scan (file : String) (ls : List String) :
    jobs file (Directive.scan ls) = .ok (jobsOf file 0 ls) :=
  jobs_eq file 0 ls

/-! ## Agreement of a run with the plain recursion -/

/-- A buffer and a progress are those of an outline of the lines of a file from line `k` on, after
the lines `before` with their origins and the segments among them. -/
structure Realizes (load : String → Except Raised String) (file : String) (k : Nat)
    (ls before : List String) (origins : List Origin) (segments : List Segment) (p : Progress)
    (b : Buffer) (o : Outline) (p' : Progress) : Prop where
  unfolds : Unfolds load file ls p.used.toFinset o p'.used.toFinset
  lines : b.lines = before ++ o.lines
  tracks : b.Tracks (origins ++ o.origins file k)
  loads : p'.loads = p.loads ++ o.files
  layout : b.segments = .ofBlock file 0 b.size :: (segments ++ o.segments before.length)

/-- A run of the lines of a file ends as the plain recursion does, and made these calls. -/
def LoopAgrees (load : String → Except Raised String) (maxDepth : Int) (chain : List String)
    (file : String) (k : Nat) (ls before : List String) (origins : List Origin)
    (segments : List Segment) (p : Progress) (run : Run Buffer) (calls : List Call) :
    Except Stop (List String × Finset String) → Prop
  | .error e => run.result = .error (.raised (e.raised maxDepth))
  | .ok (out, used) => ∃ b o, run.result = .ok b ∧ o.lines = out ∧
      run.progress.used.toFinset = used ∧ calls = o.calls chain ∧
      Realizes load file k ls before origins segments p b o run.progress

/-- A run of a file ends as the plain recursion does, and made these calls. -/
def Agrees (load : String → Except Raised String) (maxDepth : Int) (chain : List String)
    (file : String) (p : Progress) (run : Run Buffer) (calls : List Call) :
    Except Stop (List String × Finset String) → Prop
  | .error e => run.result = .error (.raised (e.raised maxDepth))
  | .ok (out, used) => ∃ b o text, run.result = .ok b ∧ o.lines = out ∧
      run.progress.used.toFinset = used ∧ load file = .ok text ∧
      calls = ⟨chain, file⟩ :: o.calls chain ∧
      Realizes load file 0 (Text.lines text) [] [] [] ((p.use file).log (.load file)) b o run.progress

/-- One more line worked off: what it gave stands between the lines before and the rest. -/
theorem LoopAgrees.extend {load : String → Except Raised String} {maxDepth : Int} {chain : List String}
    {file line : String} {k : Nat} {rest before block : List String}
    {origins blockOrigins : List Origin} {segments segments₁ : List Segment} {p p₁ : Progress}
    {run : Run Buffer} {calls calls₁ : List Call} {res : Except Stop (List String × Finset String)}
    (wrap : Outline → Outline)
    (h : LoopAgrees load maxDepth chain file (k + 1) rest (before ++ block)
      (origins ++ blockOrigins) segments₁ p₁ run calls₁ res)
    (hunfolds : ∀ o used', Unfolds load file rest p₁.used.toFinset o used' →
      Unfolds load file (line :: rest) p.used.toFinset (wrap o) used')
    (hlines : ∀ o, (wrap o).lines = block ++ o.lines)
    (horigins : ∀ o, (wrap o).origins file k = blockOrigins ++ o.origins file (k + 1))
    (hloads : ∀ o, p₁.loads ++ o.files = p.loads ++ (wrap o).files)
    (hsegments : ∀ o, segments₁ ++ o.segments (before.length + block.length) =
      segments ++ (wrap o).segments before.length)
    (hcalls : ∀ o, calls₁ = o.calls chain → calls = (wrap o).calls chain) :
    LoopAgrees load maxDepth chain file k (line :: rest) before origins segments p run calls
      (prepend block res) := by
  cases res with
  | error e => exact h
  | ok out =>
    obtain ⟨b, o, hrun, hout, hused, hmade, hr⟩ := h
    refine ⟨b, wrap o, hrun, by rw [hlines, hout], hused, hcalls o hmade, hunfolds o _ hr.unfolds,
      ?_, ?_, ?_, ?_⟩
    · rw [hr.lines, hlines, List.append_assoc]
    · rw [horigins, ← List.append_assoc]
      exact hr.tracks
    · rw [hr.loads, hloads]
    · rw [hr.layout, List.length_append, hsegments]

/-! ## The loop over the directives of a file -/

theorem fileOrigins_succ (file : String) (k n : Nat) :
    Buffer.fileOrigins file k (n + 1) = (file, (k : Int)) :: Buffer.fileOrigins file (k + 1) n := by
  simp [Buffer.fileOrigins, List.range'_succ]

/-- The loop stands before line `k` of a file, with the lines `ls` still to come. The lines above gave
`before`, and `offset` is the difference between the two ways to count. -/
structure AtLine (file : String) (k : Nat) (ls before : List String) (origins : List Origin)
    (segments : List Segment) (offset : Int) (b : Buffer) : Prop where
  position : (k : Int) + offset = before.length
  length : origins.length = before.length
  lines : b.lines = before ++ ls
  tracks : b.Tracks (origins ++ Buffer.fileOrigins file k ls.length)
  layout : b.segments = .ofBlock file 0 b.size :: segments
  passed : ∀ s ∈ segments, s.stop ≤ before.length

namespace AtLine

variable {file line : String} {k : Nat} {rest before : List String} {origins : List Origin}
  {segments : List Segment} {offset : Int} {b : Buffer}

theorem pass (h : AtLine file k (line :: rest) before origins segments offset b) :
    AtLine file (k + 1) rest (before ++ [line]) (origins ++ [(file, (k : Int))]) segments offset b := by
  have hpos := h.position
  have htracks := h.tracks
  rw [List.length_cons, fileOrigins_succ] at htracks
  refine ⟨?_, by simp [h.length], by simp [h.lines], by simpa using htracks, h.layout, ?_⟩
  · rw [List.length_append, List.length_singleton]
    omega
  · intro s hs
    have := h.passed s hs
    rw [List.length_append]
    omega

theorem blank (h : AtLine file k (line :: rest) before origins segments offset b) :
    b.blankLine (k + offset) = .ok (b.blanked before.length) ∧
      AtLine file (k + 1) rest (before ++ [""]) (origins ++ [(file, (k : Int))]) segments offset
        (b.blanked before.length) := by
  have hlt : before.length < b.size := by simp [Buffer.size, h.lines]
  constructor
  · rw [h.position]
    simp [Buffer.blankLine, Buffer.position?, hlt, Buffer.blanked]
  · have hpass := h.pass
    refine ⟨?_, ?_, ?_, hpass.tracks.blanked _, ?_, ?_⟩
    · simpa using hpass.position
    · simpa using hpass.length
    · simp [Buffer.blanked, h.lines]
    · simpa using h.layout
    · simpa using hpass.passed

theorem splice {nested : Buffer} {block : List Origin}
    (h : AtLine file k (line :: rest) before origins segments offset b) (hn : nested.Tracks block) :
    b.splice (k + offset) nested = .ok (b.grafted before.length nested) ∧
      AtLine file (k + 1) rest (before ++ nested.lines) (origins ++ block)
        (segments ++ nested.segments.map (·.shifted before.length))
        (offset + nested.size - 1) (b.grafted before.length nested) := by
  have hpos := h.position
  have hsize : b.size = before.length + (rest.length + 1) := by simp [Buffer.size, h.lines]
  have hline : 0 ≤ (before.length : Int) ∧ (before.length : Int) < b.size := by omega
  have hblock : block.length = nested.lines.length := hn.length
  have hnested := hn.laminar.size_pos
  constructor
  · rw [hpos]
    exact Buffer.splice_eq b _ nested hline hnested
  · refine ⟨?_, by simp [h.length, hblock], by simp [Buffer.grafted, h.lines], ?_, ?_, ?_⟩
    · rw [List.length_append, Buffer.size]
      omega
    · have hgraft := h.tracks.grafted hn hline
      rw [List.length_cons, fileOrigins_succ] at hgraft
      simpa [Buffer.graftOrigins, ← h.length] using hgraft
    · -- the segments passed end above the block, and that of the file itself grows around it
      have hkept : segments.map (·.grown before.length (nested.size - 1)) = segments := by
        rw [List.map_congr_left fun s hs => Segment.grown_of_stop_le _ (h.passed s hs), List.map_id']
      rw [Buffer.size_grafted b _ nested hline, Buffer.grafted, h.layout, List.map_cons, hkept,
        Segment.ofBlock_grown file _ (by omega), Nat.add_sub_assoc hnested]
      rfl
    · intro s hs
      rw [List.length_append]
      rcases List.mem_append.1 hs with hs | hs
      · have := h.passed s hs
        omega
      · obtain ⟨t, ht, rfl⟩ := List.mem_map.1 hs
        have := hn.laminar.within t ht
        rw [Segment.shifted_stop]
        rw [Buffer.size] at this
        omega

end AtLine

theorem tracedJobs_agrees {load : String → Except Raised String} {maxDepth : Int} {chain : List String}
    {real : String → Progress → TracedRun}
    {plain : String → Finset String → Except Stop (List String × Finset String)}
    (hsim : ∀ target p, Agrees load maxDepth (chain ++ [target]) target p (real target (p.use target)).run
      (real target (p.use target)).calls (plain target p.used.toFinset))
    (file : String) (ls : List String) :
    ∀ (k : Nat) (before : List String) (origins : List Origin) (segments : List Segment)
      (offset : Int) (b : Buffer) (p : Progress),
      AtLine file k ls before origins segments offset b →
      LoopAgrees load maxDepth chain file k ls before origins segments p
        (tracedJobs real file (jobsOf file k ls) offset b p).run
        (tracedJobs real file (jobsOf file k ls) offset b p).calls
        (expandLines plain file ls p.used.toFinset) := by
  -- the induction is on the lines still to come; a line without a directive has no job
  induction ls with
  | nil =>
    intro k before origins segments offset b p hat
    exact ⟨b, .done, rfl, rfl, rfl, rfl, .done, hat.lines, hat.tracks,
      by simp [Outline.files, jobsOf, tracedJobs], by simpa [Outline.segments] using hat.layout⟩
  | cons line rest ih =>
    intro k before origins segments offset b p hat
    rw [jobsOf, expandLines]
    cases ht : Directive.target? line with
    | none =>
      have hrest := ih (k + 1) _ _ _ offset b p hat.pass
      exact hrest.extend (.keep line) (fun o used' hu => .keep ht hu) (fun _ => rfl) (fun _ => rfl)
        (fun _ => rfl) (fun _ => rfl) fun _ hmade => hmade
    | some target =>
      simp only [tracedJobs]
      by_cases hused : targetOf file target ∈ p.used.toFinset
      · rw [if_pos hused, if_pos (by simpa using hused)]
        obtain ⟨hblank, hnext⟩ := hat.blank
        rw [hblank]
        have hrest := ih (k + 1) _ _ _ offset _ (p.log (.skip file k (targetOf file target))) hnext
        exact hrest.extend (.elide (targetOf file target)) (fun o used' hu => .elide ht hused hu)
          (fun _ => rfl) (fun _ => rfl) (fun _ => by simp [Outline.files]) (fun _ => rfl)
          fun _ hmade => hmade
      · rw [if_neg hused, if_neg (by simpa using hused)]
        have hinner := hsim (targetOf file target) p
        cases hreal : real (targetOf file target) (p.use (targetOf file target)) with
        | mk run inside =>
        cases run with
        | mk result p₁ =>
        rw [hreal] at hinner
        cases hplain : plain (targetOf file target) p.used.toFinset with
        | error e =>
          rw [hplain] at hinner
          obtain rfl : result = .error (.raised (e.raised maxDepth)) := hinner
          rfl
        | ok inner =>
          rw [hplain] at hinner
          obtain ⟨nested, o₁, text, hres, hout, hused₁, hload, hinside, hr⟩ := hinner
          obtain rfl : result = .ok nested := hres
          obtain ⟨inner, used₁⟩ := inner
          obtain rfl : p₁.used.toFinset = used₁ := hused₁
          obtain rfl : nested.lines = inner := hr.lines.trans hout
          obtain ⟨hsplice, hnext⟩ := hat.splice hr.tracks
          simp only [hsplice]
          have hrest := ih (k + 1) _ _ _ _ _ p₁ hnext
          refine hrest.extend (.nest (targetOf file target) o₁) ?_ ?_ (fun _ => rfl) ?_ ?_ ?_
          · intro o used' hu
            exact .nest ht hused hload (by simpa using hr.unfolds) hu
          · intro o
            rw [hr.lines]
            rfl
          · intro o
            simp [hr.loads, Outline.files]
          · intro o
            have hlines : nested.lines = o₁.lines := hr.lines
            simp [hr.layout, Outline.segments, Buffer.size, hlines, Outline.segments_shifted,
              Segment.ofBlock_shifted]
          · rintro o hmade
            have hinside : inside = ⟨chain ++ [targetOf file target], targetOf file target⟩ ::
                o₁.calls (chain ++ [targetOf file target]) := hinside
            rw [TracedRun.calls_after, hinside, hmade]
            rfl

/-! ## Whole runs -/

section Runs

variable {load : String → Except Raised String} {maxDepth : Int} {chain : List String} {file : String}
  {p : Progress} {run : Run Buffer} {calls : List Call} {res : Except Stop (List String × Finset String)}

theorem Agrees.ok_iff (h : Agrees load maxDepth chain file p run calls res) (lines : List String)
    (used : Finset String) :
    res = .ok (lines, used) ↔
      ∃ b, run.result = .ok b ∧ b.lines = lines ∧ run.progress.used.toFinset = used := by
  cases res with
  | error e =>
    have hres : run.result = .error (.raised (e.raised maxDepth)) := h
    constructor
    · intro heq
      cases heq
    · rintro ⟨b, hb, -⟩
      cases hres.symm.trans hb
  | ok out =>
    obtain ⟨b, o, text, hres, hout, hused, -, -, hr⟩ := h
    have hlines : b.lines = out.1 := hr.lines.trans hout
    constructor
    · intro heq
      cases heq
      exact ⟨b, hres, hlines, hused⟩
    · rintro ⟨b', hb', rfl, rfl⟩
      cases hres.symm.trans hb'
      rw [hlines, hused]

theorem Agrees.error_iff (h : Agrees load maxDepth chain file p run calls res) (f : Failure) :
    run.result = .error f ↔ ∃ e, res = .error e ∧ f = .raised (e.raised maxDepth) := by
  cases res with
  | error e =>
    have hres : run.result = .error (.raised (e.raised maxDepth)) := h
    constructor
    · intro hf
      cases hres.symm.trans hf
      exact ⟨e, rfl, rfl⟩
    · rintro ⟨e', heq, rfl⟩
      cases heq
      exact hres
  | ok out =>
    obtain ⟨b, o, text, hres, -⟩ := h
    constructor
    · intro hf
      cases hres.symm.trans hf
    · rintro ⟨e, heq, -⟩
      cases heq

theorem Agrees.of_use (h : Agrees load maxDepth chain file (p.use file) run calls res) :
    Agrees load maxDepth chain file p run calls res := by
  unfold Agrees at h ⊢
  rw [Progress.use_use] at h
  exact h

/-- The loop over all lines of a file is the run of the file. -/
theorem LoopAgrees.agrees {text : String}
    (h : LoopAgrees load maxDepth chain file 0 (Text.lines text) [] [] []
      ((p.use file).log (.load file)) run calls res)
    (hload : load file = .ok text) :
    Agrees load maxDepth chain file p run (⟨chain, file⟩ :: calls) res := by
  cases res with
  | error e => exact h
  | ok out =>
    obtain ⟨b, o, hrun, hout, hused, hmade, hr⟩ := h
    exact ⟨b, o, text, hrun, hout, hused, hload, by rw [hmade], hr⟩

end Runs

theorem tracedFile_agrees (load : String → Except Raised String) (maxDepth : Int) (budget : Nat) :
    ∀ (above : List String) (path : String) (p : Progress),
      budget = (maxDepth + 1 - above.length).toNat →
      Agrees load maxDepth (above ++ [path]) path p
        (tracedFile load maxDepth budget (above ++ [path]) path p).run
        (tracedFile load maxDepth budget (above ++ [path]) path p).calls
        (expand load maxDepth above path p.used.toFinset) := by
  induction budget with
  | zero =>
    intro above path p hbudget
    rw [expand, if_pos (by omega)]
    rfl
  | succ budget ih =>
    intro above path p hbudget
    rw [expand, if_neg (by omega), tracedFile]
    cases hload : load path with
    | error e => rfl
    | ok text =>
      -- the loop has marked a file as used before it is expanded, and the file marks itself again
      have hsim : ∀ target q,
          let t := tracedFile load maxDepth budget (above ++ [path] ++ [target]) target (q.use target)
          Agrees load maxDepth (above ++ [path] ++ [target]) target q t.run t.calls
            (expand load maxDepth (above ++ [path]) target q.used.toFinset) := by
        intro target q
        have h := ih (above ++ [path]) target (q.use target) (by simp; omega)
        rw [Progress.used_use, expand_insert] at h
        exact h.of_use
      have hstart : AtLine path 0 (Text.lines text) [] [] [] 0 (Buffer.ofText text path) :=
        ⟨rfl, rfl, rfl, Buffer.tracks_ofText text path, Buffer.segments_ofText text path, by simp⟩
      have hloop := tracedJobs_agrees hsim path (Text.lines text) 0 [] [] [] 0
        (Buffer.ofText text path) ((p.use path).log (.load path)) hstart
      have hscan : jobs path (Directive.scan (Buffer.ofText text path).lines) =
          .ok (jobsOf path 0 (Text.lines text)) := jobs_scan path _
      simp only [hscan]
      rw [Progress.used_log, Progress.used_use] at hloop
      exact hloop.agrees hload

theorem run_agrees (load : String → Except Raised String) (maxDepth : Int) (root : String) :
    Agrees load maxDepth [root] root {} (run load maxDepth root) (callsOf load maxDepth root)
      (expand load maxDepth [] root ∅) := by
  have h := tracedFile_agrees load maxDepth (budgetOf maxDepth) [] root {} (by simp [budgetOf])
  rw [run_tracedFile] at h
  exact h

end Expansion

namespace Resolver

open Expansion

/-- The run by which a resolver expands a file. -/
def expansion (r : Resolver) (w : World) (path : String) : Run Buffer :=
  Expansion.run (r.load w) r.config.maxDepth (r.rootPath w path)

theorem resolve_fst (r : Resolver) (w : World) (path : String) :
    (r.resolve w path).1 = (r.expansion w path).result := by
  unfold resolve expansion
  cases h : (Expansion.run (r.load w) r.config.maxDepth (r.rootPath w path)).result with
  | error e => simp [h]
  | ok b => simp [h]

/-- A resolver succeeds exactly when the plain recursion does, with the same lines and the same used
files. Otherwise it reports what is due, unless a file is too deep for a limit that cannot be written. -/
theorem resolve_refines_expand (r : Resolver) (w : World) (path : String) :
    (∀ lines used, expand (r.load w) r.config.maxDepth [] (r.rootPath w path) ∅ = .ok (lines, used) ↔
      ∃ b, (r.resolve w path).1 = .ok b ∧ b.lines = lines ∧
        (r.expansion w path).progress.used.toFinset = used) ∧
    (∀ f, (r.resolve w path).1 = .error f ↔
      ∃ s, expand (r.load w) r.config.maxDepth [] (r.rootPath w path) ∅ = .error s ∧
        f = .raised (s.raised r.config.maxDepth)) ∧
    ∀ s, expand (r.load w) r.config.maxDepth [] (r.rootPath w path) ∅ = .error s →
      ((r.resolve w path).1 = .error (.raised (s.due r.config.maxDepth)) ↔
        ∀ chain, s = .tooDeep chain → Text.Writable r.config.maxDepth) := by
  have h := run_agrees (r.load w) r.config.maxDepth (r.rootPath w path)
  rw [resolve_fst]
  refine ⟨h.ok_iff, h.error_iff, ?_⟩
  intro s hs
  have hraised : (r.expansion w path).result = .error (.raised (s.raised r.config.maxDepth)) :=
    (h.error_iff _).2 ⟨s, hs, rfl⟩
  rw [hraised, ← Stop.raised_eq_due_iff, Except.error.injEq, Failure.raised.injEq]

/-- Files in memory: `a` includes `b` and `c`, `b` includes `c`, and `c` includes `a`; `d` includes `b`
and `c`, and then a file that is not there. -/
def cyclicFiles : Backend
  | "a" => .text "top\n#include_once \"b\"\n#include_once <c>\nend"
  | "b" => .text "#include_once c\nb1"
  | "c" => .text "#include_once \"a\"\nc1\n"
  | "d" => .text "#include_once b\n#include_once c\n#include_once gone"
  | _ => .nothing

def cyclicResolver : Resolver :=
  { config := { defaultScheme := "mem" }
    table := .free [(some "mem", .custom cyclicFiles)]
    logger := .shared "resolver" }

/-- What the first of the files resolves to. -/
def cyclicMerged : Buffer :=
  ⟨["top", "", "c1", "", "b1", "", "end"],
    [⟨0, 7, "a", by decide⟩, ⟨1, 5, "b", by decide⟩, ⟨1, 4, "c", by decide⟩]⟩

theorem resolve_cyclic : (cyclicResolver.resolve {} "a").1 = .ok cyclicMerged := rfl

/-- From `a`, directives are expanded and blanked; from `d`, the last one fails after both. -/
theorem resolve_refines_expand_cyclic :
    expand (cyclicResolver.load {}) 64 [] "a" ∅ =
        .ok (["top", "", "c1", "", "b1", "", "end"], {"a", "b", "c"}) ∧
      (cyclicResolver.resolve {} "a").1 = .ok cyclicMerged ∧
      (cyclicResolver.expansion {} "d").progress.events =
        [.load "d", .load "b", .load "c", .load "a", .skip "a" 1 "b", .skip "a" 2 "c", .skip "d" 1 "c",
          .load "gone"] ∧
      expand (cyclicResolver.load {}) 64 [] "d" ∅ = .error (.unloaded (.error (.emptyFile "gone"))) ∧
      (cyclicResolver.resolve {} "d").1 = .error (.raised (.error (.emptyFile "gone"))) := by
  have hplain : expand (cyclicResolver.load {}) 64 [] "a" ∅ =
      .ok (["top", "", "c1", "", "b1", "", "end"], {"a", "b", "c"}) :=
    ((resolve_refines_expand cyclicResolver {} "a").1 _ _).2
      ⟨cyclicMerged, resolve_cyclic, rfl, by decide +kernel⟩
  have hfails : (cyclicResolver.resolve {} "d").1 = .error (.raised (.error (.emptyFile "gone"))) := by
    decide +kernel
  obtain ⟨s, hs, hraised⟩ := ((resolve_refines_expand cyclicResolver {} "d").2.1 _).1 hfails
  obtain rfl : s = .unloaded (.error (.emptyFile "gone")) := by
    cases s with
    | tooDeep chain =>
      have hdue := (Stop.raised_eq_due_iff 64 (.tooDeep chain)).2 fun _ _ => by decide +kernel
      cases hraised.trans (congrArg Failure.raised hdue)
    | unloaded e =>
      cases hraised
      rfl
  exact ⟨hplain, resolve_cyclic, by decide +kernel, hs, hfails⟩

/-- The resolver with another depth limit. -/
def withMaxDepth (r : Resolver) (d : Int) : Resolver :=
  { r with config := { r.config with maxDepth := d } }

/-- The largest negative number that cannot be written. -/
def unwritableLimit : Int :=
  -(Nat.pow 10 Text.digitLimit : Nat)

theorem resolve_unwritableLimit :
    ((cyclicResolver.withMaxDepth unwritableLimit).resolve {} "a").1 =
      .error (.raised (.unwritable .tooLongToWrite)) := by
  decide +kernel

/-- The root is too deep for a negative limit, and the failure to write that limit is all that is
reported. -/
theorem resolve_misses_due_report :
    let r := cyclicResolver.withMaxDepth unwritableLimit
    expand (r.load {}) r.config.maxDepth [] (r.rootPath {} "a") ∅ = .error (.tooDeep ["a"]) ∧
      (r.resolve {} "a").1 ≠ .error (.raised ((Stop.tooDeep ["a"]).due r.config.maxDepth)) ∧
      (r.resolve {} "a").1 = .error (.raised (.fault (.invalidValue
        Text.NumeralError.tooLongToWrite.message))) := by
  intro r
  have hneg : r.config.maxDepth < 0 := by decide +kernel
  refine ⟨?_, ?_, resolve_unwritableLimit⟩
  · rw [expand, if_pos (by simpa using hneg)]
    rfl
  · rw [resolve_unwritableLimit]
    simp [Stop.due, Raised.unwritable]

end Resolver
end ShaderInclude
