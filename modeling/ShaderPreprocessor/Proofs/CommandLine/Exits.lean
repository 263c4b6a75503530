/-
How runs of the command line tool end.

* `Request.isReported_of_answer`: where no file that can be reached from the input can be reached
  from itself, all reasons for which a server gives no answer are reported;
* `Request.Unwritable`: the input comes to a result, and the file that is named for it cannot be
  written. `Request.Unwritable.exit` and `Request.exit_of_writable`: how a run ends then, and how it
  ends otherwise;
* `run_escapes_iff`: a run ends with status 0 or 1 unless this is so, and
  `missing_directory_escapes`: it may be so.
-/
import ShaderPreprocessor.Proofs.CommandLine.AllOrNothing

namespace ShaderPreprocessor.CommandLine

open Relation

namespace Request

variable {files : FileTree} {request : Request} {path : String}

/-- If no file that can be reached can be reached from itself, the reason for which a server gives
no answer is one that is reported. -/
lemma isReported_of_answer {failure : Failure}
    (hacyclic : ∀ other, (Server.new request.rootPath {}).Reaches files [path] other →
      ¬ TransGen (fun p q => q ∈ (Server.new request.rootPath {}).asks files p) other other)
    (hanswer : request.answer files path = .error failure) : isReported failure = true := by
  have hfollow : ({} : Settings).followImports = true := rfl
  obtain ⟨outcome, hexpands, hcomes⟩ | ⟨other, e, -, hread, hcomes⟩ :=
    Session.process_new files .fresh request.rootPath hfollow path request.defs
  · rw [answer, hcomes] at hanswer
    cases outcome with
    | ok processed => cases hanswer
    | error stop =>
        cases stop with
        | endless =>
            obtain ⟨units, shader, hunits, hshader, hend⟩ := hexpands.expands
            exact absurd hend (hunits.not_endless hshader hacyclic request.defs)
        | fault e =>
            cases hanswer
            rfl
  · rw [answer, hcomes] at hanswer
    cases hanswer
    exact Settings.isFileFault_of_readShader (Settings.decoder_of_utf8 rfl) hread

/-- The input comes to a result, and the file that is named for it cannot be written. -/
def Unwritable (request : Request) (files : FileTree) (e : AccessError) : Prop :=
  ∃ path processed out, request.relative? files.home = some path ∧
    request.answer files path = .ok processed ∧ request.output = some out ∧
      files.write out (resultBytes processed) = .error e

/-- Then the failure to write it ends the run. -/
lemma Unwritable.exit {e : AccessError} (h : request.Unwritable files e) :
    (request.run files).exit = .escaped (.load (.access e)) := by
  obtain ⟨path, processed, out, hinside, hanswer, hout, hwrite⟩ := h
  rw [run_of_inside hinside, hanswer, hout]
  dsimp only
  rw [deliver, hwrite]

/-- If this is not so, a run for a request ends with a status. -/
lemma exit_of_writable
    (hacyclic : ∀ path, request.relative? files.home = some path →
      ∀ other, (Server.new request.rootPath {}).Reaches files [path] other →
        ¬ TransGen (fun p q => q ∈ (Server.new request.rootPath {}).asks files p) other other)
    (hwritable : ∀ e, ¬ request.Unwritable files e) :
    (request.run files).exit = .status 0 ∨ (request.run files).exit = .status 1 := by
  cases hinside : request.relative? files.home with
  | none => exact .inr (by rw [run, hinside]; rfl)
  | some path =>
      cases hanswer : request.answer files path with
      | error failure =>
          have hreported := isReported_of_answer (hacyclic path hinside) hanswer
          exact .inr (run_of_error hinside hreported hanswer).1.exit
      | ok processed =>
          refine .inl (run_of_ok hinside (fun out hout => ?_) hanswer).1
          cases hwrite : files.write out (resultBytes processed) with
          | ok files' => exact ⟨files', rfl⟩
          | error e =>
              exact absurd ⟨path, processed, out, hinside, hanswer, hout, hwrite⟩ (hwritable e)

end Request

/-- **How runs end.** A command line is understood, and no file that can be reached from its input
can be reached from itself. Then a failure that is not reported ends the run exactly if the input
comes to a result and the file that is named for the result cannot be written; it is the reason why
it cannot. In all other cases, whatever becomes of finding, reading, decoding and preprocessing the
input and what it imports, the run ends with status 0 or 1. That standard output takes what is shown
and that the working directory is still there is taken for granted: failures of either lie outside
the model. -/
theorem run_escapes_iff {files : FileTree} {arguments : List String} {request : Request}
    (hrequest : Request.ofArguments arguments = .ok request)
    (hacyclic : ∀ path, request.relative? files.home = some path →
      ∀ other, (Server.new request.rootPath {}).Reaches files [path] other →
        ¬ TransGen (fun p q => q ∈ (Server.new request.rootPath {}).asks files p) other other) :
    (∀ failure, (run files arguments).exit = .escaped failure ↔
      ∃ e, request.Unwritable files e ∧ failure = .load (.access e)) ∧
    ((run files arguments).exit = .status 0 ∨ (run files arguments).exit = .status 1 ↔
      ∀ e, ¬ request.Unwritable files e) := by
  rw [run_of_request hrequest]
  by_cases hwritable : ∀ e, ¬ request.Unwritable files e
  · have hstatus := Request.exit_of_writable hacyclic hwritable
    refine ⟨fun failure => ⟨fun hexit => ?_, fun ⟨e, he, _⟩ => absurd he (hwritable e)⟩,
      fun _ => hwritable, fun _ => hstatus⟩
    rcases hstatus with hstatus | hstatus <;> cases hstatus.symm.trans hexit
  · obtain ⟨e, hunwritable⟩ := not_forall_not.1 hwritable
    refine ⟨fun failure => ⟨fun hexit => ?_, ?_⟩, fun hstatus => ?_,
      fun hnone => absurd hnone hwritable⟩
    · cases hunwritable.exit.symm.trans hexit
      exact ⟨e, hunwritable, rfl⟩
    · rintro ⟨e', he', rfl⟩
      exact he'.exit
    · rcases hstatus with hstatus | hstatus <;> cases hunwritable.exit.symm.trans hstatus

/-- A file of one line. -/
def oneFile (line : String) : FileTree := (World.ofFiles [("a.wgsl", line)]).files

/-- It is to be preprocessed, and the result to be written in a directory that does not exist. -/
def preprocessInto : Request :=
  ⟨.ofText "a.wgsl", [], none, some (.ofText "missing/out.wgsl"), false⟩

/-- If the file closes a block that is not open, there is no result to be written, and the run ends
with a status. -/
theorem status_of_fault :
    let report := run (oneFile "#endif\n") ["a.wgsl", "-o", "missing/out.wgsl"]
    report.exit = .status 0 ∨ report.exit = .status 1 := by
  have hrequest : Request.ofArguments ["a.wgsl", "-o", "missing/out.wgsl"] = .ok preprocessInto :=
    rfl
  have hinside : preprocessInto.relative? (oneFile "#endif\n").home = some "a.wgsl" := rfl
  have hasks : (Server.new preprocessInto.rootPath {}).asks (oneFile "#endif\n") "a.wgsl" = [] := by
    decide +kernel
  have hacyclic : ∀ path, preprocessInto.relative? (oneFile "#endif\n").home = some path →
      ∀ other, (Server.new preprocessInto.rootPath {}).Reaches (oneFile "#endif\n") [path] other →
        ¬ TransGen (fun p q => q ∈ (Server.new preprocessInto.rootPath {}).asks
          (oneFile "#endif\n") p) other other := by
    rintro path hpath other ⟨start, hstart, hreaches⟩ hcycle
    cases hinside.symm.trans hpath
    cases List.mem_singleton.1 hstart
    -- the file leads nowhere else
    obtain rfl | ⟨next, hnext, -⟩ := hreaches.cases_head
    · obtain ⟨next, hnext, -⟩ := TransGen.head'_iff.1 hcycle
      rw [hasks] at hnext
      cases hnext
    · rw [hasks] at hnext
      cases hnext
  have hanswer : preprocessInto.answer (oneFile "#endif\n") "a.wgsl" =
      .error (.process .tooManyEndifs) := by
    decide +kernel
  refine (run_escapes_iff hrequest hacyclic).2.2 ?_
  rintro e ⟨path, processed, -, hpath, hok, -⟩
  cases hinside.symm.trans hpath
  cases hanswer.symm.trans hok

/-- If the file is preprocessed, which asks for no other, the run ends by the failure to write the
result. -/
theorem missing_directory_escapes :
    Request.ofArguments ["a.wgsl", "-o", "missing/out.wgsl"] = .ok preprocessInto ∧
    preprocessInto.relative? (oneFile "a\n").home = some "a.wgsl" ∧
    (Server.new preprocessInto.rootPath {}).asks (oneFile "a\n") "a.wgsl" = [] ∧
    (run (oneFile "a\n") ["a.wgsl", "-o", "missing/out.wgsl"]).exit =
      .escaped (.load (.access (.system .notFound (.ofText "missing/out.wgsl")))) := by
  decide +kernel

end ShaderPreprocessor.CommandLine
