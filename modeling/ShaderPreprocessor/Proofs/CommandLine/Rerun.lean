/-
The command line tool run on what it has written.

* `Request.run_ok_of_exit`: a run that ends with status 0 has an answer that could be delivered;
* `Request.format?_of_inside`: the file that a run reads first is read as its input is named;
* `Session.process_of_ordinary`: a file of ordinary text without carriage returns stands for
  itself;
* `Written`: text as runs write it, and `Request.written_of_run`: it is what they come to;
* `Request.run_on_written`: a run on a file that is so written shows it;
* `run_on_output`: a run on the output of another one shows it as it is.
-/
import ShaderPreprocessor.Proofs.CommandLine.AllOrNothing
import ShaderPreprocessor.Proofs.CommandLine.Arguments
import ShaderPreprocessor.Proofs.Expansion.Characters
import ShaderPreprocessor.Proofs.Expansion.Success
import ShaderPreprocessor.Proofs.Path.Names

namespace ShaderPreprocessor

open Text

/-! ### Ordinary files -/

/-- A file of ordinary text without carriage returns asks for no other and stands for itself. -/
lemma Session.process_of_ordinary {files : FileTree} {root : Path} {settings : Settings}
    (supply : Supply) (hfollow : settings.followImports = true) {path : String} {dialect : Dialect}
    {content : String}
    (hread : settings.readShader files ((Server.new root settings).fullPath path) =
      .ok ⟨.text dialect content, none⟩)
    (hordinary : Ordinary content.toList) (hreturn : '\r' ∉ content.toList) (defs : List String) :
    ((Session.start supply (.new root settings)).process files path defs).2 =
      .ok (.text dialect content) := by
  have hasks : (Server.new root settings).asks files path = [] := by
    have hshader : (Server.new root settings).settings.readShader files
        ((Server.new root settings).fullPath path) = .ok ⟨.text dialect content, none⟩ := hread
    rw [Server.asks, hshader]
    dsimp only
    rw [Shader.imports, Source.imports, hordinary.importRefs_eq_nil]
    rfl
  obtain ⟨outcome, hexpands, hanswer⟩ | ⟨other, e, hreaches, hunread, -⟩ :=
    Session.process_new files supply root hfollow path defs
  · obtain ⟨units, shader, hunits, hshader, rfl⟩ := hexpands.expands
    obtain ⟨-, hsame⟩ := (hunits path shader).1 hshader
    cases hread.symm.trans hsame
    rw [hanswer, hordinary.preprocess hreturn]
    rfl
  · obtain ⟨start, hstart, hpath⟩ := hreaches
    cases List.mem_singleton.1 hstart
    obtain rfl | ⟨next, hstep, -⟩ := hpath.cases_head
    · cases hread.symm.trans hunread
    · rw [hasks] at hstep
      cases hstep

namespace CommandLine

/-! ### Runs that succeed -/

/-- Text as runs write it: ordinary text without carriage returns. -/
structure Written (content : String) : Prop where
  ordinary : Ordinary content.toList
  noReturn : '\r' ∉ content.toList

namespace Request

variable {files : FileTree} {request : Request} {path : String}

/-- A run that ends with status 0 has an answer that could be delivered. -/
lemma run_ok_of_exit (h : (request.run files).exit = .status 0) :
    ∃ path processed, request.relative? files.home = some path ∧
      request.answer files path = .ok processed ∧ ∀ out, request.output = some out →
        ∃ files', files.write out (resultBytes processed) = .ok files' := by
  cases hinside : request.relative? files.home with
  | none =>
      rw [run, hinside] at h
      cases h
  | some path =>
      rw [run_of_inside hinside] at h
      cases hanswer : request.answer files path with
      | error failure =>
          rw [hanswer] at h
          dsimp only at h
          split at h <;> cases h
      | ok processed =>
          refine ⟨path, processed, rfl, hanswer, fun out hout => ?_⟩
          rw [hanswer] at h
          dsimp only at h
          cases hwrite : files.write out (resultBytes processed) with
          | ok files' => exact ⟨files', rfl⟩
          | error e =>
              rw [hout, deliver, hwrite] at h
              cases h

/-- The file that a run reads first is read as its input is named, if it is read as anything. It is
the input by another path, or the root itself where the two are the same place. -/
lemma format?_of_inside {home : List String} {text : String} {format format' : FileFormat}
    (hinput : request.input = .ofText text)
    (hformat : ({} : Settings).format? request.input = some format)
    (hinside : request.relative? home = some path)
    (hformat' : ({} : Settings).format? ((Server.new request.rootPath {}).fullPath path) =
      some format') : format' = format := by
  obtain ⟨front, last, hparts, hlast⟩ := Settings.exists_last_of_format? hformat
  have hmem : last ∈ (Path.ofText text).parts := by
    rw [← hinput, hparts]
    simp
  have hcomponent := Path.isComponent_of_mem hmem
  -- the place of the input ends in its last component
  have hplace : ∀ {p : Path} {front : List String} {last : String}, p.parts = front ++ [last] →
      last ≠ ".." → (p.resolve home).getLast? = some last := by
    rintro ⟨anchor, -⟩ front last rfl hlast
    rw [Path.resolve_append home anchor front hlast, List.getLast?_concat]
  have hend := hplace hparts hlast
  rw [relative?] at hinside
  split_ifs at hinside with hnul hprefix
  cases hinside
  obtain ⟨below, hbelow⟩ := List.isPrefixOf_iff_prefix.1 hprefix
  rw [← hbelow, List.drop_left] at hformat'
  have hsame : ((Server.new request.rootPath {}).fullPath
      (Path.toText ⟨.relative, below⟩)).parts.getLast? = some last := by
    rcases List.eq_nil_or_concat below with rfl | ⟨between, part, rfl⟩
    · -- the input is the root
      have hroot : (Server.new request.rootPath {}).fullPath (Path.toText ⟨.relative, []⟩) =
          request.rootPath := by
        change request.rootPath.join ⟨.relative, []⟩ = request.rootPath
        rw [Path.join_of_relative _ rfl, List.append_nil]
      rw [hroot] at hformat' ⊢
      obtain ⟨front', last', hparts', hlast'⟩ := Settings.exists_last_of_format? hformat'
      rw [List.append_nil] at hbelow
      rw [← hend, ← hbelow, hplace hparts' hlast', hparts', List.getLast?_concat]
    · rw [List.concat_eq_append] at hbelow ⊢
      rw [← hbelow, ← List.append_assoc, List.getLast?_concat, Option.some_inj] at hend
      subst hend
      exact Path.getLast?_join _ (Path.getLast?_ofText_toText hcomponent between)
  rw [Settings.format?_congr _ (hsame.trans (by rw [hparts, List.getLast?_concat])), hformat]
    at hformat'
  exact (Option.some.inj hformat').symm

/-- What a run on text comes to is written as runs write it. -/
lemma written_of_run {text : String} {dialect : Dialect} {processed : Processed}
    (hinput : request.input = .ofText text)
    (hformat : ({} : Settings).format? request.input = some (.text dialect))
    (hinside : request.relative? files.home = some path)
    (hanswer : request.answer files path = .ok processed) :
    ∃ content, processed = .text dialect content ∧ Written content := by
  have hfollow : ({} : Settings).followImports = true := rfl
  obtain ⟨outcome, hexpands, houtcome⟩ | ⟨other, e, -, -, herror⟩ :=
    Session.process_new files .fresh request.rootPath hfollow path request.defs
  · rw [answer, houtcome] at hanswer
    cases outcome with
    | error stop => cases hanswer
    | ok result =>
        cases hanswer
        obtain ⟨units, shader, hunits, hshader, hresult⟩ := hexpands.expands
        obtain ⟨-, hread⟩ := (hunits path shader).1 hshader
        obtain ⟨format', hformat'⟩ :=
          Option.isSome_iff_exists.1 (Settings.isSome_format_of_readShader hread)
        cases format?_of_inside hinput hformat hinside hformat'
        obtain ⟨-, source, -, -, rfl⟩ := (Settings.readShader_of_text hformat').1 hread
        obtain ⟨content, rfl⟩ := expand_text_of_succeeds rfl hresult
        refine ⟨content, rfl, expand_ordinary hresult, fun hmem => ?_⟩
        refine expand_forall (P := (· ≠ '\r')) (by decide) ?_ ?_ hresult '\r' hmem rfl
        · intro ref s dialect' content' hfound hsource c hc heq
          subst heq
          cases ref with
          | custom name =>
              rw [Library.shader?_ofUnits] at hfound
              cases hfound
          | asset next =>
              obtain ⟨-, hnext⟩ := hunits.shader?_eq_some_iff.1 hfound
              exact Settings.return_not_mem_of_readShader hnext hsource hc
        · intro dialect' content' hsource c hc heq
          subst heq
          exact Settings.return_not_mem_of_readShader hread hsource hc
  · rw [answer, herror] at hanswer
    cases hanswer

/-- Without a root of its own, an input whose last component names something lies in its directory
under this component. -/
lemma relative?_of_no_root {home : List String} {front : List String} {last : String}
    (hroot : request.root = none) (hnul : request.input.hasNul = false)
    (hparts : request.input.parts = front ++ [last]) (hlast : last ≠ "..") :
    request.relative? home = some last := by
  have hrootPath : request.rootPath = request.input.parent := by
    rw [rootPath, hroot, Option.getD_none]
  have hplace : request.input.resolve home = request.input.parent.resolve home ++ [last] := by
    have happend := Path.resolve_append home request.input.anchor front hlast
    rw [← hparts] at happend
    rw [happend, Path.parent, hparts, List.dropLast_concat]
  have hnul' : request.input.parent.hasNul = false := by
    rw [Path.hasNul, hparts, List.any_append, Bool.or_eq_false_iff] at hnul
    rw [Path.hasNul, Path.parent_parts, hparts, List.dropLast_concat, hnul.1]
  have hprefix : (request.input.parent.resolve home).isPrefixOf
      (request.input.parent.resolve home ++ [last]) = true :=
    List.isPrefixOf_iff_prefix.2 (List.prefix_append _ _)
  rw [relative?, hrootPath, hplace, hnul, hnul', if_neg (by simp), if_pos hprefix, List.drop_left,
    Path.toText_component]

/-- A run on a file that is written as runs write it shows it. -/
lemma run_on_written {out : String} {dialect : Dialect} {content : String}
    (hinput : request.input = .ofText out) (hroot : request.root = none)
    (houtput : request.output = none)
    (hformat : ({} : Settings).format? (.ofText out) = some (.text dialect))
    (hread : files.read (.ofText out) = .ok (encodeUtf8 content.toList))
    (hwritten : Written content) :
    (request.run files).exit = .status 0 ∧
      Delivered files none (encodeUtf8 content.toList) (request.run files) := by
  rw [← hinput] at hformat hread
  obtain ⟨front, last, hparts, hlast⟩ := Settings.exists_last_of_format? hformat
  have hmem : last ∈ (Path.ofText out).parts := by
    rw [← hinput, hparts]
    simp
  have hnul : request.input.hasNul = false := by
    rw [FileTree.read] at hread
    split at hread
    · cases hread
    · next hlocate => exact (FileTree.locate_eq_ok_iff.1 hlocate).1
  have hinside : request.relative? files.home = some last :=
    relative?_of_no_root hroot hnul hparts hlast
  have hfull : (Server.new request.rootPath {}).fullPath last = request.input := by
    change request.rootPath.join (.ofText last) = request.input
    rw [rootPath, hroot, Option.getD_none,
      Path.join_parent (Path.isComponent_of_mem hmem) hparts]
  have hshader : ({} : Settings).readShader files
      ((Server.new request.rootPath {}).fullPath last) = .ok ⟨.text dialect content, none⟩ := by
    rw [hfull]
    exact (Settings.readShader_of_text hformat).2
      ⟨_, content, hread, Settings.textOf_encodeUtf8 rfl hwritten.noReturn, rfl⟩
  have hanswer : request.answer files last = .ok (.text dialect content) :=
    Session.process_of_ordinary .fresh rfl hshader hwritten.ordinary hwritten.noReturn request.defs
  have hdelivers := run_of_ok hinside (fun o ho => by rw [houtput] at ho; cases ho) hanswer
  rwa [houtput] at hdelivers

end Request

/-! ### A run on the output of another one -/

/-- **A run on what a run has written.** A run on an input that is named as text ends with status 0
and writes its result to a file that is named as text, maybe in the other language. Then a run on
this file that names no root and no output ends with status 0 and shows the bytes of the file, and
changes nothing, whatever names it defines. In particular this holds of the command lines that give
some names and then the file, if none of them starts with a dash. -/
theorem run_on_output {files : FileTree} {arguments : List String} {request : Request}
    {out : String} {dialect dialect' : Dialect}
    (hrequest : Request.ofArguments arguments = .ok request)
    (hinput : ({} : Settings).format? request.input = some (.text dialect))
    (houtput : request.output = some (.ofText out))
    (hout : ({} : Settings).format? (.ofText out) = some (.text dialect'))
    (hexit : (run files arguments).exit = .status 0) :
    let report := run files arguments
    ∃ data, report.files.read (.ofText out) = .ok data ∧
      (∀ arguments' request', Request.ofArguments arguments' = .ok request' →
        request'.input = .ofText out → request'.root = none → request'.output = none →
          (run report.files arguments').exit = .status 0 ∧
            Delivered report.files none data (run report.files arguments')) ∧
      ∀ names, (∀ name ∈ names, Undashed name) → Undashed out →
        (run report.files (definitions names ++ [out])).exit = .status 0 ∧
          Delivered report.files none data (run report.files (definitions names ++ [out])) := by
  intro report
  have hreport : report = request.run files := run_of_request hrequest files
  obtain ⟨text, htext⟩ := Request.exists_input hrequest
  rw [run_of_request hrequest] at hexit
  obtain ⟨path, processed, hinside, hanswer, hwritable⟩ := Request.run_ok_of_exit hexit
  obtain ⟨content, rfl, hwritten⟩ := Request.written_of_run htext hinput hinside hanswer
  obtain ⟨-, hdelivered⟩ := Request.run_of_ok hinside hwritable hanswer
  rw [houtput, ← hreport] at hdelivered
  obtain ⟨-, hwrites, -⟩ := hdelivered
  refine ⟨_, hwrites.read, fun arguments' request' hrequest' hinput' hroot' houtput' => ?_,
    fun names hnames hundashed => ?_⟩
  · rw [run_of_request hrequest']
    exact Request.run_on_written hinput' hroot' houtput' hout hwrites.read hwritten
  · rw [run_of_request (Request.ofArguments_definitions hnames hundashed)]
    exact Request.run_on_written rfl rfl rfl hout hwrites.read hwritten

/-- Two files with mixed line ends, one of which imports the other. -/
def mixedLineEnds : FileTree :=
  (World.ofFiles [("a.wgsl", "x\r\r\n#import \"b.wgsl\"\r\n"), ("b.wgsl", "b\r")]).files

/-- The result is written to a file of the other language. What is written has line feeds alone, and
is shown as it is. -/
theorem run_on_output_mixed :
    let report := run mixedLineEnds ["a.wgsl", "-o", "out.frag"]
    report.files.read (.ofText "out.frag") = .ok (encodeUtf8 "x\n\nb\n".toList) ∧
      (run report.files ["-D", "A", "out.frag"]).exit = .status 0 ∧
      (run report.files ["-D", "A", "out.frag"]).stdout = encodeUtf8 "x\n\nb\n".toList := by
  intro report
  have hrequest : Request.ofArguments ["a.wgsl", "-o", "out.frag"] =
      .ok ⟨.ofText "a.wgsl", [], none, some (.ofText "out.frag"), false⟩ := rfl
  have hexit : (run mixedLineEnds ["a.wgsl", "-o", "out.frag"]).exit = .status 0 := by
    decide +kernel
  have hread : report.files.read (.ofText "out.frag") = .ok (encodeUtf8 "x\n\nb\n".toList) := by
    decide +kernel
  have hinput : ({} : Settings).format? (.ofText "a.wgsl") = some (.text .wgsl) := by
    decide +kernel
  have hout : ({} : Settings).format? (.ofText "out.frag") = some (.text (.glsl .fragment)) := by
    decide +kernel
  obtain ⟨data, hdata, -, hagain⟩ := run_on_output hrequest hinput rfl hout hexit
  cases hread.symm.trans hdata
  have hnames : ∀ name ∈ ["A"], Undashed name := by
    simp [Undashed]
  have hundashed : Undashed "out.frag" := by
    simp [Undashed]
  obtain ⟨hstatus, hdelivered⟩ := hagain ["A"] hnames hundashed
  exact ⟨hread, hstatus, hdelivered.1⟩

end CommandLine

end ShaderPreprocessor
