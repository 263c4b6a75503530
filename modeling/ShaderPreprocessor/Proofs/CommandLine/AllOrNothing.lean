/-
What a run of the command line tool comes to.

* `Delivered`: a result is shown, or written to the file that is named for it and nowhere else;
* `Failed`: a run ends with status 1, shows nothing and leaves all files as they are;
* `Request.run_of_inside`: a run on an input inside the root goes by the answer of the server;
* `Request.run_of_ok`, `Request.run_of_error`: runs for a request, by what the server answers;
* `run_delivers_or_fails`: a run delivers what the files that can be reached from the input come to,
  and fails if they come to nothing.
-/
import ShaderPreprocessor.CommandLine.Run
import ShaderPreprocessor.Proofs.Files.Writing
import ShaderPreprocessor.Proofs.Loading.Assembly
import ShaderPreprocessor.Proofs.Loading.Dependencies

namespace ShaderPreprocessor.CommandLine

open Relation

/-! ### Results and failures -/

/-- Data is shown, or written to the file that is named for it, and nothing else happens to any
file. -/
def Delivered (files : FileTree) (output : Option Path) (data : List UInt8) (report : Report) :
    Prop :=
  match output with
  | none => report.stdout = data ∧ report.files = files ∧ report.written = none
  | some out =>
    report.stdout = [] ∧ files.Writes out data report.files ∧ report.written = some (out, data)

/-- A run ends with status 1, shows nothing and leaves all files as they are. -/
structure Failed (files : FileTree) (report : Report) : Prop where
  exit : report.exit = .status 1
  stdout : report.stdout = []
  files : report.files = files
  written : report.written = none

namespace Request

variable {files : FileTree} {request : Request} {path : String}

/-- The last line on the error output names the input and says why there is no result. Before it
stand the events that are told. -/
def Blames (request : Request) (message : String) (report : Report) : Prop :=
  ∃ events, report.stderr = eventLines request.verbose events ++ request.input.toText ++ ": " ++
    message ++ "\n"

/-- The answer of the server that a run asks. -/
def answer (request : Request) (files : FileTree) (path : String) : Except Failure Processed :=
  ((Session.start .fresh (.new request.rootPath {})).process files path request.defs).2

/-- What a run has to show once the server has answered: what it said and opened on the way. -/
def begun (request : Request) (files : FileTree) (path : String) : Report :=
  let s := ((Session.start .fresh (.new request.rootPath {})).process files path request.defs).1
  ⟨.status 0, [], eventLines request.verbose s.events, files, s.opened, none⟩

/-- A run on an input inside the root goes by the answer of the server. -/
lemma run_of_inside (hinside : request.relative? files.home = some path) :
    request.run files =
      match request.answer files path with
      | .ok processed =>
        deliver files request.output (resultBytes processed) (request.begun files path)
      | .error failure =>
        if isReported failure then
          { request.begun files path with
            exit := .status 1
            stderr := (request.begun files path).stderr ++ request.input.toText ++ ": " ++
              failure.message ++ "\n" }
        else { request.begun files path with exit := .escaped failure } := by
  cases hprocess : (Session.start .fresh (.new request.rootPath {})).process files path
    request.defs with
  | mk s result => cases result <;> simp only [run, hinside, answer, begun, hprocess]

/-- A result is delivered, if it can be written. -/
lemma run_of_ok {processed : Processed} (hinside : request.relative? files.home = some path)
    (hwritable : ∀ out, request.output = some out →
      ∃ files', files.write out (resultBytes processed) = .ok files')
    (hanswer : request.answer files path = .ok processed) :
    (request.run files).exit = .status 0 ∧
      Delivered files request.output (resultBytes processed) (request.run files) := by
  rw [run_of_inside hinside, hanswer]
  dsimp only
  cases houtput : request.output with
  | none => exact ⟨rfl, rfl, rfl, rfl⟩
  | some out =>
      obtain ⟨files', hwrite⟩ := hwritable out houtput
      rw [deliver, hwrite]
      exact ⟨rfl, rfl, FileTree.writes_of_write hwrite, rfl⟩

/-- A failure that is reported ends a run. -/
lemma run_of_error {failure : Failure} (hinside : request.relative? files.home = some path)
    (hreported : isReported failure = true)
    (hanswer : request.answer files path = .error failure) :
    Failed files (request.run files) ∧ request.Blames failure.message (request.run files) := by
  rw [run_of_inside hinside, hanswer]
  dsimp only
  rw [if_pos hreported]
  obtain ⟨events, hevents⟩ : ∃ events,
      (request.begun files path).stderr = eventLines request.verbose events := by
    simp only [begun]
    exact ⟨_, rfl⟩
  exact ⟨⟨rfl, rfl, rfl, rfl⟩, events, by rw [hevents]⟩

end Request

/-- A run for a command line that is understood is one for its request. -/
lemma run_of_request {arguments : List String} {request : Request}
    (hrequest : Request.ofArguments arguments = .ok request) (files : FileTree) :
    run files arguments = request.run files := by
  rw [run, hrequest]

/-! ### All or nothing -/

/-- **All or nothing.** A command line is understood, its input lies inside the root, the file for
the result can be written if one is named, and no file that can be reached from the input can be
reached from itself. Then the run ends with status 0 exactly if all files that can be reached become
shaders and the input comes to a result in the library of all of them under the defined names. It
delivers the bytes of this result, and changes no other file. Otherwise it ends with status 1, shows
nothing and changes nothing; it blames a file that becomes no shader if one can be reached, and the
error of preprocessing if none can. -/
theorem run_delivers_or_fails {files : FileTree} {arguments : List String} {request : Request}
    {path : String} (hrequest : Request.ofArguments arguments = .ok request)
    (hinside : request.relative? files.home = some path)
    (hwritable : ∀ out, request.output = some out → ∀ data,
      ∃ files', files.write out data = .ok files')
    (hacyclic : ∀ other, (Server.new request.rootPath {}).Reaches files [path] other →
      ¬ TransGen (fun p q => q ∈ (Server.new request.rootPath {}).asks files p) other other) :
    let server := Server.new request.rootPath {}
    let report := run files arguments
    (report.exit = .status 0 ↔
      ∃ result, server.Expands files path request.defs (.ok result)) ∧
    (∀ result, server.Expands files path request.defs (.ok result) →
      Delivered files request.output (resultBytes result) report) ∧
    (report.exit ≠ .status 0 → Failed files report) ∧
    ((∃ other, server.Reaches files [path] other ∧ ∀ shader,
        server.settings.readShader files (server.fullPath other) ≠ .ok shader) →
      ∃ other e, server.Reaches files [path] other ∧
        server.settings.readShader files (server.fullPath other) = .error e ∧
        request.Blames e.message report) ∧
    ∀ e, server.Expands files path request.defs (.error (.fault e)) →
      request.Blames e.message report := by
  intro server report
  have hreport : report = request.run files := run_of_request hrequest files
  have hfollow : ({} : Settings).followImports = true := rfl
  have hzero : ∀ {r : Report}, Failed files r → r.exit ≠ .status 0 := by
    intro r hr hexit
    rw [hr.exit] at hexit
    cases hexit
  obtain ⟨outcome, hexpands, hanswer⟩ | ⟨other, e, hreaches, hread, hanswer⟩ :=
    Session.process_new files .fresh request.rootPath hfollow path request.defs
  · have hreadable : ¬ ∃ other, server.Reaches files [path] other ∧ ∀ shader,
        server.settings.readShader files (server.fullPath other) ≠ .ok shader := by
      rintro ⟨other, hother, hunread⟩
      obtain ⟨shader, hshader⟩ := hexpands.read other hother
      exact hunread shader hshader
    cases outcome with
    | ok processed =>
        obtain ⟨hexit, hdelivered⟩ :=
          Request.run_of_ok hinside (fun out hout => hwritable out hout _) hanswer
        rw [hreport]
        refine ⟨⟨fun _ => ⟨processed, hexpands⟩, fun _ => hexit⟩, fun result hresult => ?_,
          fun h => absurd hexit h, fun h => absurd h hreadable, fun e he => ?_⟩
        · cases hexpands.unique hresult
          exact hdelivered
        · cases hexpands.unique he
    | error stop =>
        cases stop with
        | endless =>
            obtain ⟨units, shader, hunits, hshader, hend⟩ := hexpands.expands
            exact absurd hend (hunits.not_endless hshader hacyclic request.defs)
        | fault e =>
            obtain ⟨hfailed, hblames⟩ := Request.run_of_error hinside rfl hanswer
            rw [hreport]
            refine ⟨⟨fun h => absurd h (hzero hfailed), ?_⟩, fun result hresult => ?_,
              fun _ => hfailed, fun h => absurd h hreadable, fun e' he' => ?_⟩
            · rintro ⟨result, hresult⟩
              cases hexpands.unique hresult
            · cases hexpands.unique hresult
            · cases hexpands.unique he'
              exact hblames
  · have hreported : isReported (.load e) = true :=
      Settings.isFileFault_of_readShader (Settings.decoder_of_utf8 rfl) hread
    obtain ⟨hfailed, hblames⟩ := Request.run_of_error hinside hreported hanswer
    have hnone : ∀ outcome, ¬ server.Expands files path request.defs outcome := by
      intro outcome hexpands
      obtain ⟨shader, hshader⟩ := hexpands.read other hreaches
      cases hread.symm.trans hshader
    rw [hreport]
    refine ⟨⟨fun h => absurd h (hzero hfailed), ?_⟩, fun result hresult => ?_,
      fun _ => hfailed, fun _ => ⟨other, e, hreaches, hread, hblames⟩, fun e' he' => ?_⟩
    · rintro ⟨result, hresult⟩
      exact absurd hresult (hnone _)
    · exact absurd hresult (hnone _)
    · exact absurd he' (hnone _)

/-- A file with a block and an import, and the file that it imports. -/
def twoFiles : FileTree :=
  (World.ofFiles [("a.wgsl", "#ifdef A\na\n#endif\n#import \"b.wgsl\"\n"), ("b.wgsl", "b\n")]).files

/-- The first one is to be preprocessed with its name defined, and the result to be written. -/
def preprocessFirst : Request :=
  ⟨.ofText "a.wgsl", ["A"], none, some (.ofText "out.wgsl"), false⟩

/-- All files that can be reached become shaders, and what is written is what they come to. -/
theorem run_delivers_two_files :
    ∃ result,
      (Server.new preprocessFirst.rootPath {}).Expands twoFiles "a.wgsl" ["A"] (.ok result) ∧
      twoFiles.Writes (.ofText "out.wgsl") (resultBytes result)
        (run twoFiles ["a.wgsl", "-D", "A", "-o", "out.wgsl"]).files := by
  have hrequest : Request.ofArguments ["a.wgsl", "-D", "A", "-o", "out.wgsl"] =
      .ok preprocessFirst := rfl
  have hinside : preprocessFirst.relative? twoFiles.home = some "a.wgsl" := rfl
  have hwritable : ∀ out, preprocessFirst.output = some out → ∀ data,
      ∃ files', twoFiles.write out data = .ok files' := by
    have hlocate : twoFiles.locate (.ofText "out.wgsl") = .ok ["out.wgsl"] := by
      decide +kernel
    have hnode : twoFiles.node? ["out.wgsl"] = none := by
      decide +kernel
    rintro out ⟨⟩ data
    rw [FileTree.write, hlocate]
    dsimp only
    rw [hnode]
    exact ⟨_, rfl⟩
  have hacyclic : ∀ other,
      (Server.new preprocessFirst.rootPath {}).Reaches twoFiles ["a.wgsl"] other →
        ¬ TransGen (fun p q => q ∈ (Server.new preprocessFirst.rootPath {}).asks twoFiles p)
          other other := by
    have hfirst : (Server.new preprocessFirst.rootPath {}).asks twoFiles "a.wgsl" = ["b.wgsl"] := by
      decide +kernel
    have hsecond : (Server.new preprocessFirst.rootPath {}).asks twoFiles "b.wgsl" = [] := by
      decide +kernel
    -- the second file leads nowhere else
    have hend : ∀ other, ReflTransGen
        (fun p q => q ∈ (Server.new preprocessFirst.rootPath {}).asks twoFiles p) "b.wgsl" other →
          other = "b.wgsl" := by
      intro other hpath
      obtain rfl | ⟨next, hstep, -⟩ := hpath.cases_head
      · rfl
      · rw [hsecond] at hstep
        cases hstep
    rintro other ⟨start, hstart, hpath⟩ hcycle
    cases List.mem_singleton.1 hstart
    obtain rfl | ⟨next, hstep, hrest⟩ := hpath.cases_head
    · obtain ⟨next, hstep, hback⟩ := TransGen.head'_iff.1 hcycle
      rw [hfirst, List.mem_singleton] at hstep
      subst hstep
      exact absurd (hend _ hback) (by decide)
    · rw [hfirst, List.mem_singleton] at hstep
      subst hstep
      cases hend _ hrest
      obtain ⟨next, hstep, -⟩ := TransGen.head'_iff.1 hcycle
      rw [hsecond] at hstep
      cases hstep
  have hexit : (run twoFiles ["a.wgsl", "-D", "A", "-o", "out.wgsl"]).exit = .status 0 := by
    decide +kernel
  obtain ⟨hresult, hdelivered, -⟩ := run_delivers_or_fails hrequest hinside hwritable hacyclic
  obtain ⟨result, hexpands⟩ := hresult.1 hexit
  exact ⟨result, hexpands, (hdelivered result hexpands).2.1⟩

end ShaderPreprocessor.CommandLine
