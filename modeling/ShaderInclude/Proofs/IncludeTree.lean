import ShaderInclude.Proofs.IncludeOnce

/-!
# ShaderInclude.Proofs.IncludeTree

The tree of segments is the tree of includes. A buffer guesses the parent of a segment: it is the
closest segment before it that encloses it. `Ancestry` lists segments beside the calls that expanded
their files, and grows by one segment at a time: the new call extends the chain of the parent's call by
the new file.

* `Unfolds.ancestry`: the layout of an expansion grows in this way.
* `Ancestry.parent`, `Ancestry.files_at`: what follows for the parent of a segment, and for the files
  whose segments contain a line.
* `resolve_include_tree`: parents and chains of a resolved buffer are those of the expansion.
-/

namespace ShaderInclude

open Expansion

namespace Buffer

theorem parentOf?_of_nodup {b : Buffer} (hnodup : b.segments.Nodup) {j p : Nat} {s : Segment}
    (hs : b.segments[j]? = some s) (hp : b.parent? j = some p) :
    b.parentOf? s = b.segments[p]? := by
  obtain ⟨hj, hsj⟩ := List.getElem?_eq_some_iff.1 hs
  have hfind : b.segments.findIdx? (· == s) = some j := by
    rw [List.findIdx?_eq_some_iff_getElem]
    refine ⟨hj, by simp [hsj], ?_⟩
    intro i hij heq
    have hsame : b.segments[i] = b.segments[j] := by rw [hsj]; exact beq_iff_eq.1 heq
    have := (List.Nodup.getElem_inj_iff hnodup).1 hsame
    omega
  rw [parentOf?, hfind, Option.bind_some, hp, Option.bind_some]

end Buffer

namespace Expansion

open Segment

/-- Segments with the calls that expanded their files, and for all but the first the directive that
gave way to the file. A segment comes after the one that encloses it most closely. -/
inductive Ancestry (load : String → Except Raised String) :
    List Segment → List Call → List Origin → Prop where
  | root (s : Segment) : Ancestry load [s] [⟨[s.file], s.file⟩] []
  | child {segments : List Segment} {calls : List Call} {sites : List Origin} {s : Segment} {p : Nat}
      {parent : Call} {k : Int} :
      Ancestry load segments calls sites → Buffer.lastIndex? (s.isInside ·) segments = some p →
      calls[p]? = some parent → Names load (parent.path, k) s.file →
      Ancestry load (segments ++ [s]) (calls ++ [⟨parent.chain ++ [s.file], s.file⟩])
        (sites ++ [(parent.path, k)])

namespace Ancestry

variable {load : String → Except Raised String} {segments : List Segment} {calls : List Call}
  {sites : List Origin}

theorem paths (h : Ancestry load segments calls sites) :
    calls.map Call.path = segments.map Segment.file := by
  induction h with
  | root s => rfl
  | child _ _ _ _ ih => simp [ih]

theorem length (h : Ancestry load segments calls sites) : calls.length = segments.length := by
  simpa using congrArg List.length h.paths

theorem path_eq (h : Ancestry load segments calls sites) {j : Nat} {s : Segment} {call : Call}
    (hs : segments[j]? = some s) (hcall : calls[j]? = some call) : call.path = s.file := by
  have hpath := congrArg (fun (xs : List String) => xs[j]?) h.paths
  simpa [hs, hcall] using hpath

/-- Every segment but the first has a parent, whose call led to its own. -/
theorem parent (h : Ancestry load segments calls sites) {j : Nat} (hj : 1 ≤ j)
    (hlt : j < segments.length) :
    ∃ (p : Nat) (s : Segment) (parent : Call) (k : Int), segments[j]? = some s ∧
      Buffer.lastIndex? (s.isInside ·) (segments.take j) = some p ∧ calls[p]? = some parent ∧
      calls[j]? = some ⟨parent.chain ++ [s.file], s.file⟩ ∧ Names load (parent.path, k) s.file ∧
      (parent.path, k) ∈ sites := by
  induction h with
  | root s =>
    rw [List.length_singleton] at hlt
    omega
  | @child segments calls sites s p parent k hrest hp hcall hnames ih =>
    have hlen := hrest.length
    by_cases hold : j < segments.length
    · obtain ⟨q, t, parent', k', ht, hq, hcq, hcj, hnames', hsite⟩ := ih hold
      obtain ⟨hqlt, -⟩ := List.getElem?_eq_some_iff.1 hcq
      refine ⟨q, t, parent', k', ?_, ?_, ?_, ?_, hnames', by simp [hsite]⟩
      · rw [List.getElem?_append_left hold, ht]
      · rw [List.take_append_of_le_length (by omega), hq]
      · rw [List.getElem?_append_left hqlt, hcq]
      · rw [List.getElem?_append_left (by omega), hcj]
    · rw [List.length_append, List.length_singleton] at hlt
      obtain rfl : j = segments.length := by omega
      obtain ⟨hplt, -⟩ := List.getElem?_eq_some_iff.1 hcall
      refine ⟨p, s, parent, k, by simp, by simpa using hp, ?_, by simp [← hlen], hnames, by simp⟩
      rw [List.getElem?_append_left hplt, hcall]

/-- The segments up to one that contains a line, as far as they contain the line too, are those of the
files on its chain. -/
theorem files_at (h : Ancestry load segments calls sites)
    (hord : segments.Pairwise fun s t => t.isInside s = true ∨ t.Beside s) {line : Int} {q : Nat}
    {t : Segment} {call : Call} (ht : segments[q]? = some t) (htl : t.contains line = true)
    (hcall : calls[q]? = some call) :
    ((segments.take (q + 1)).filter (·.contains line)).map Segment.file = call.chain := by
  -- the induction follows the growth; only the last segment is new, and its chain extends its parent's
  induction h generalizing q t call with
  | root s =>
    obtain ⟨hq, -⟩ := List.getElem?_eq_some_iff.1 ht
    obtain rfl : q = 0 := by simpa using hq
    obtain rfl : s = t := by simpa using ht
    obtain rfl : ⟨[s.file], s.file⟩ = call := by simpa using hcall
    simp [htl]
  | @child segments calls sites s p parent k hrest hp hparent _ ih =>
    have hlen := hrest.length
    obtain ⟨hord, -, hnew⟩ := List.pairwise_append.1 hord
    obtain ⟨hq, -⟩ := List.getElem?_eq_some_iff.1 ht
    by_cases hold : q < segments.length
    · rw [List.getElem?_append_left hold] at ht
      rw [List.getElem?_append_left (by omega)] at hcall
      rw [List.take_append_of_le_length (by omega)]
      exact ih hord ht htl hcall
    · rw [List.length_append, List.length_singleton] at hq
      obtain rfl : q = segments.length := by omega
      obtain rfl : s = t := by simpa using ht
      obtain rfl : ⟨parent.chain ++ [s.file], s.file⟩ = call := by simpa [← hlen] using hcall
      obtain ⟨⟨u, hu, hsu⟩, hlast⟩ := Buffer.lastIndex?_spec hp
      have hup := ih hord hu (Buffer.contains_of_isInside hsu htl) hparent
      -- between the parent and the new segment nothing contains the line, or it would be the parent
      have hbetween : (segments.drop (p + 1)).filter (·.contains line) = [] := by
        rw [List.filter_eq_nil_iff]
        intro v hv hvl
        obtain ⟨m, hm⟩ := List.mem_iff_getElem?.1 hv
        rw [List.getElem?_drop] at hm
        have hout := hlast _ v (by omega) hm
        rcases hnew v (List.mem_of_mem_drop hv) s (by simp) with hin | hbeside
        · rw [hin] at hout
          cases hout
        · rw [contains_iff] at hvl htl
          unfold Beside at hbeside
          omega
      have hsplit : segments.filter (·.contains line) =
          (segments.take (p + 1)).filter (·.contains line) := by
        conv_lhs => rw [← List.take_append_drop (p + 1) segments, List.filter_append, hbetween,
          List.append_nil]
      rw [List.take_of_length_le (by simp), List.filter_append, hsplit, List.map_append, hup]
      simp [htl]

/-- Where each file has one segment, the files whose segments contain a line are the chain of the one
call for the line's file. -/
theorem chain_iff {b : Buffer} (h : Ancestry load b.segments calls sites) (hb : b.Laminar)
    (hfiles : (b.segments.map Segment.file).Nodup) {i : Int} {j : Nat} {s : Segment}
    (ho : b.ownerIndex? i = some j) (hs : b.segments[j]? = some s) (chain : List String) :
    ⟨chain, s.file⟩ ∈ calls ↔ chain = (b.segmentsAt i).map Segment.file := by
  obtain ⟨hj, -⟩ := List.getElem?_eq_some_iff.1 hs
  obtain ⟨call, hcall⟩ : ∃ call, calls[j]? = some call :=
    ⟨_, List.getElem?_eq_getElem (by rw [h.length]; exact hj)⟩
  have hsi : s.contains i = true := by
    obtain ⟨t, ht, hti⟩ := Buffer.owner_contains ho
    rw [hs] at ht
    cases ht
    exact hti
  have hpath := h.path_eq hs hcall
  have hchain : (b.segmentsAt i).map Segment.file = call.chain := by
    rw [Buffer.segmentsAt_of_owner ho]
    exact h.files_at hb.ordered hs hsi hcall
  rw [hchain, ← hpath]
  constructor
  · intro hmem
    obtain ⟨m, hm⟩ := List.mem_iff_getElem?.1 hmem
    have hpaths : (calls.map Call.path)[j]? = (calls.map Call.path)[m]? := by
      simp [hcall, hm]
    rw [h.paths, List.getElem?_inj (by simpa using hj) hfiles] at hpaths
    rw [← hpaths, hcall] at hm
    exact (congrArg Call.chain (Option.some.inj hm)).symm
  · rintro rfl
    exact List.mem_of_getElem? hcall

end Ancestry

/-! ## Growth of a layout -/

/-- The segment at index `c` is open for the lines from `start` to `stop`: it encloses them, and the
segments added since have ended. -/
structure Open (segments : List Segment) (calls : List Call) (c : Nat) (call : Call)
    (start stop : Nat) : Prop where
  called : calls[c]? = some call
  encloses : ∃ s, segments[c]? = some s ∧ s.start ≤ start ∧ stop ≤ s.stop
  ended : ∀ m s, c < m → segments[m]? = some s → s.stop ≤ start

namespace Open

variable {segments : List Segment} {calls : List Call} {c : Nat} {call : Call} {start stop : Nat}

/-- An open segment is the parent of the next segment within its lines. -/
theorem parent (h : Open segments calls c call start stop) {s : Segment} (hstart : start ≤ s.start)
    (hlt : s.start < s.stop) (hstop : s.stop ≤ stop) :
    Buffer.lastIndex? (s.isInside ·) segments = some c := by
  obtain ⟨cur, hcur, hfrom, hto⟩ := h.encloses
  refine Buffer.lastIndex?_eq_some hcur ?_ ?_
  · rw [isInside_iff]
    omega
  · intro m t hm ht
    have := h.ended m t hm ht
    rw [Bool.eq_false_iff, ne_eq, isInside_iff]
    omega

/-- A segment stays open while others are added that end before the lines to come. -/
theorem append (h : Open segments calls c call start stop) (more : List Segment)
    (moreCalls : List Call) {next : Nat} (hnext : start ≤ next)
    (hmore : ∀ s ∈ more, s.stop ≤ next) :
    Open (segments ++ more) (calls ++ moreCalls) c call next stop := by
  obtain ⟨cur, hcur, hfrom, hto⟩ := h.encloses
  obtain ⟨hc, -⟩ := List.getElem?_eq_some_iff.1 h.called
  obtain ⟨hcs, -⟩ := List.getElem?_eq_some_iff.1 hcur
  refine ⟨?_, ⟨cur, ?_, by omega, hto⟩, ?_⟩
  · rw [List.getElem?_append_left hc, h.called]
  · rw [List.getElem?_append_left hcs, hcur]
  · intro m s hm hs
    by_cases hold : m < segments.length
    · rw [List.getElem?_append_left hold] at hs
      have := h.ended m s hm hs
      omega
    · rw [List.getElem?_append_right (by omega)] at hs
      exact hmore s (List.mem_of_getElem? hs)

theorem skip (h : Open segments calls c call start stop) :
    Open segments calls c call (start + 1) stop := by
  simpa using h.append [] [] (Nat.le_succ start) (by simp)

theorem new (hlen : calls.length = segments.length) (file : String) (call : Call)
    (start count : Nat) :
    Open (segments ++ [ofBlock file start count]) (calls ++ [call]) segments.length call start
      (start + count) := by
  refine ⟨by simp [← hlen], ⟨ofBlock file start count, by simp, by simp, by simp⟩, ?_⟩
  intro m s hm hs
  rw [List.getElem?_eq_none (by simp; omega)] at hs
  cases hs

end Open

theorem Unfolds.ancestry {load : String → Except Raised String} {file : String} {ls : List String}
    {used used' : Finset String} {o : Outline} (h : Unfolds load file ls used o used')
    {segments : List Segment} {calls : List Call} {sites : List Origin} {chain : List String}
    {k c start stop : Nat} (hr : Reads load file k ls) (ha : Ancestry load segments calls sites)
    (hopen : Open segments calls c ⟨chain, file⟩ start stop)
    (hstop : start + o.lines.length ≤ stop) (hpos : ∀ s ∈ o.segments start, s.start < s.stop) :
    Ancestry load (segments ++ o.segments start) (calls ++ o.calls chain)
      (sites ++ o.sites file k) := by
  induction h generalizing segments calls sites chain k c start stop with
  | done => simpa [Outline.segments, Outline.calls, Outline.sites] using ha
  | keep _ _ ih | elide _ _ _ ih =>
    rw [Outline.lines, List.length_cons] at hstop
    exact ih hr.tail ha hopen.skip (by omega) hpos
  | @nest file line target text rest used used₁ used' inner o hline _ hload _ _ ihi ihr =>
    rw [Outline.lines, List.length_append] at hstop
    simp only [Outline.segments, List.mem_cons, List.mem_append] at hpos
    -- the file is added below the open segment, then what it includes, then the rest
    have hlt := hpos _ (.inl rfl)
    have hparent := hopen.parent (s := ofBlock (targetOf file target) start inner.lines.length)
      (by simp) hlt (by simp only [ofBlock_stop]; omega)
    have hadded := ha.child (k := k) hparent hopen.called ⟨line, target, hr.head, hline, rfl⟩
    have hnew := Open.new ha.length (targetOf file target)
      ⟨chain ++ [targetOf file target], targetOf file target⟩ start inner.lines.length
    have hinner := ihi (reads_lines hload) hadded hnew (Nat.le_refl _)
      fun s hs => hpos s (.inr (.inl hs))
    have hwithin := inner.segments_within start
    have hended := hopen.append [ofBlock (targetOf file target) start inner.lines.length]
      [⟨chain ++ [targetOf file target], targetOf file target⟩]
      (Nat.le_add_right start inner.lines.length) (by simp)
    have hback := hended.append (inner.segments start)
      (inner.calls (chain ++ [targetOf file target])) (Nat.le_refl _)
      fun s hs => by simpa using (hwithin s hs).2
    have hrest := ihr hr.tail hinner hback (by omega) fun s hs => hpos s (.inr (.inr hs))
    simpa [Outline.segments, Outline.calls, Outline.sites] using hrest

/-- The directives that gave way to files are no origins of merged lines. -/
theorem Unfolds.not_mem_origins_of_mem_sites {load : String → Except Raised String}
    {file text : String} {used used' : Finset String} {o : Outline} (hload : load file = .ok text)
    (h : Unfolds load file (Text.lines text) used o used') (hfile : file ∈ used) {site : Origin}
    (hsite : site ∈ o.sites file 0) : site ∉ o.origins file 0 := by
  have hnodup : (o.origins file 0 ++ o.sites file 0).Nodup :=
    (h.origins_sites_perm hload).nodup_iff.2 (nodup_sourceLines load (h.nodup_cons_files hfile))
  intro horigin
  exact (List.nodup_append.1 hnodup).2.2 site horigin site hsite rfl

end Expansion

namespace Resolver

theorem resolve_ancestry {r : Resolver} {w : World} {path : String} {b : Buffer}
    (h : (r.resolve w path).1 = .ok b) :
    ∃ sites, Ancestry (r.load w) b.segments (r.calls w path) sites ∧
      ∀ site ∈ sites, ∀ i, b.locate? i ≠ some site := by
  obtain ⟨o, text, hload, hunfolds, hlines, htracks, -, hsegments, hcalls⟩ := resolve_layout h
  generalize r.rootPath w path = root at *
  have hopen := @Open.new [] [] rfl root ⟨[root], root⟩ 0 b.size
  have hpos : ∀ s ∈ o.segments 0, s.start < s.stop := by
    intro s hs
    exact (htracks.laminar.within s (by simp [hsegments, hs])).2.1
  refine ⟨o.sites root 0, ?_, ?_⟩
  · rw [hsegments, hcalls]
    exact hunfolds.ancestry (reads_lines hload) (.root _) hopen (by simp [Buffer.size, hlines]) hpos
  · intro site hsite i hi
    have horigin := List.mem_of_getElem? ((htracks.locate_iff i site).1 hi).2
    exact hunfolds.not_mem_origins_of_mem_sites hload (by simp) hsite horigin

/-- The tree of the segments of `b` is the tree of the calls: the parent of a segment is the segment of
the file whose directive gave way to its file, and the files whose segments contain a line are the chain
with which the expansion of the line's file was called. -/
structure IncludeTree (load : String → Except Raised String) (calls : List Call) (b : Buffer) :
    Prop where
  paths : calls.map Call.path = b.segments.map Segment.file
  root : b.parentIndex 0 = .ok none
  parent : ∀ j : Nat, 1 ≤ j → j < b.segments.length →
    ∃ (p : Nat) (s t : Segment) (chain : List String) (k : Int),
      b.segments[j]? = some s ∧ b.segments[p]? = some t ∧
      b.parentIndex j = .ok (some p) ∧ b.parentOf? s = some t ∧
      calls[p]? = some ⟨chain, t.file⟩ ∧ calls[j]? = some ⟨chain ++ [s.file], s.file⟩ ∧
      Names load (t.file, k) s.file ∧ ∀ i, b.locate? i ≠ some (t.file, k)
  chain_at : ∀ (i : Int) (j : Nat) (s : Segment), b.ownerIndex? i = some j →
    b.segments[j]? = some s →
    ∀ chain, ⟨chain, s.file⟩ ∈ calls ↔ chain = (b.segmentsAt i).map Segment.file

theorem resolve_include_tree (r : Resolver) (w : World) (path : String) (b : Buffer)
    (h : (r.resolve w path).1 = .ok b) : IncludeTree (r.load w) (r.calls w path) b := by
  obtain ⟨sites, ha, hsites⟩ := resolve_ancestry h
  obtain ⟨-, hfiles⟩ := resolve_files h
  obtain ⟨o, text, -, -, -, htracks, -, hsegments, -⟩ := resolve_layout h
  refine ⟨ha.paths, ?_, ?_, ?_⟩
  · have hpos : 0 < b.segments.length := by simp [hsegments]
    exact (Buffer.parentIndex_of_lt hpos).trans (by rw [Buffer.parent?_zero])
  · intro j hj hlt
    obtain ⟨p, s, call, k, hs, hp, hcp, hcj, hnames, hsite⟩ := ha.parent hj hlt
    have hparent : b.parent? j = some p := by
      rw [Buffer.parent?, hs]
      exact hp
    obtain ⟨-, t, -, ht, -⟩ := Buffer.parent?_encloses hparent
    have hpath := ha.path_eq ht hcp
    rw [hpath] at hnames hsite
    refine ⟨p, s, t, call.chain, k, hs, ht, ?_, ?_, ?_, hcj, hnames, hsites _ hsite⟩
    · rw [Buffer.parentIndex_of_lt hlt, hparent]
    · rw [Buffer.parentOf?_of_nodup hfiles.of_map hs hparent, ht]
    · rw [hcp, ← hpath]
  · intro i j s ho hs
    exact ha.chain_iff htracks.laminar hfiles ho hs

/-- Three files in memory: the first two hold nothing but a directive that includes the next, and the
third includes the first. -/
def coveredFiles : Backend
  | "a" => .text "#include_once \"b\""
  | "b" => .text "#include_once \"c\""
  | "c" => .text "c1\n#include_once \"a\""
  | _ => .nothing

def coveredResolver : Resolver :=
  { cyclicResolver with table := .free [(some "mem", .custom coveredFiles)] }

/-- The three segments have the same lines. -/
def coveredMerged : Buffer :=
  ⟨["c1", ""], [⟨0, 2, "a", by decide⟩, ⟨0, 2, "b", by decide⟩, ⟨0, 2, "c", by decide⟩]⟩

theorem resolve_covered : (coveredResolver.resolve {} "a").1 = .ok coveredMerged := rfl

theorem resolve_include_tree_covered :
    (coveredResolver.resolve {} "a").1 = .ok coveredMerged ∧
      IncludeTree (coveredResolver.load {}) (coveredResolver.calls {} "a") coveredMerged :=
  ⟨resolve_covered, resolve_include_tree coveredResolver {} "a" coveredMerged resolve_covered⟩

end Resolver
end ShaderInclude
