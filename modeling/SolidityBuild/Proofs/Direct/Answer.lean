import SolidityBuild.Direct
import SolidityBuild.Proofs.Action.Within

/-! # Asking the compiler and reading its answer

What is read off an answer, said in terms of the document itself: which entries of the error
list count as errors, and which contracts there are. Whenever the document can be read at all,
the diagnostics and the contracts are these, in the order of the document. A compilation of
files is a question to the compiler and the reading of what it says.
-/

namespace SolidityBuild

theorem map_of_mapM_ok {α β γ : Type} {read : α → Except Failure β} {image : α → γ}
    {view : β → γ} {list : List α} {results : List β}
    (each : ∀ item result, read item = .ok result → view result = image item)
    (all : list.mapM read = .ok results) : results.map view = list.map image := by
  induction list generalizing results with
  | nil =>
    rw [List.mapM_nil] at all
    cases all
    rfl
  | cons item list ih =>
    rw [List.mapM_cons] at all
    obtain ⟨result, first, all⟩ := bind_eq_ok all
    obtain ⟨rest, later, all⟩ := bind_eq_ok all
    cases all
    rw [List.map_cons, List.map_cons, each item result first, ih later]

namespace CompilationOutput

/-- The entries of the error list of an answer. -/
def errorEntries (document : Members) : List Json :=
  match document.get? "errors" with
  | some (.arr entries) => entries
  | _ => []

/-- An entry that is no warning; the severity may also be missing. -/
def IsError (entry : Json) : Prop :=
  entry.member? "severity" ≠ some (.str Diagnostic.warning)

/-- The contracts of an answer, each with the names of its file and its own. -/
def contractEntries (document : Members) : List (Text × Text × Json) :=
  (((document.get? "contracts").bind Json.asObject?).getD []).flatMap fun (file, contracts) =>
    (contracts.asObject?.getD []).map fun (name, contract) => (file, name, contract)

/-- A member, or what stands for it if there is none. -/
def memberWith (default : Json) (key : Text) (value : Json) : Json :=
  (value.member? key).getD default

/-- The code of a contract. -/
def codeOf (contract : Json) : Json :=
  memberWith (.str "") "object"
    (memberWith (.obj []) "bytecode" (memberWith (.obj []) "evm" contract))

/-- The interface of a contract. -/
def interfaceOf (contract : Json) : Json :=
  memberWith (.arr []) "abi" contract

theorem memberOr_ok {value default member : Json} {key : Text}
    (read : value.memberOr key default = .ok member) : member = memberWith default key value := by
  cases value with
  | obj members =>
    cases read
    rfl
  | _ => cases read

theorem isWarning_eq_false_iff (diagnostic : Diagnostic) :
    diagnostic.isWarning = false ↔ diagnostic.severity ≠ .str Diagnostic.warning := by
  rw [Diagnostic.isWarning]
  cases diagnostic.severity with
  | str severity => simp
  | _ => simp

theorem diagnostic_ofJson (entry : Json) (diagnostic : Diagnostic)
    (read : Diagnostic.ofJson entry = .ok diagnostic) :
    (diagnostic.isWarning = false) = IsError entry := by
  cases entry with
  | obj members =>
    cases read
    rw [isWarning_eq_false_iff, IsError, Json.member?, Json.asObject?, Option.bind_some]
    cases Members.get? "severity" members with
    | none => simp [Diagnostic.error, Diagnostic.warning]
    | some severity => simp
  | _ => cases read

theorem contract_ofJson {name : Text} {contract : Json} {output : ContractOutput}
    (read : ContractOutput.ofJson name contract = .ok output) :
    output = ⟨name, interfaceOf contract, codeOf contract⟩ := by
  obtain ⟨evm, first, read⟩ := bind_eq_ok read
  obtain ⟨bytecode, second, read⟩ := bind_eq_ok read
  obtain ⟨object, third, read⟩ := bind_eq_ok read
  obtain ⟨abi, fourth, read⟩ := bind_eq_ok read
  cases read
  rw [interfaceOf, codeOf, ← memberOr_ok first, ← memberOr_ok second, ← memberOr_ok third,
    ← memberOr_ok fourth]

/-- Read the contracts of one file, and keep its name. -/
def readFile (file : Text × Json) : Except Failure (Text × List ContractOutput) := do
  let contracts ← readContracts file.2
  pure (file.1, contracts)

/-- What is read of an answer: its error list if there is one, and its files. -/
theorem ofMembers_ok {document : Members} {output : CompilationOutput}
    (read : ofMembers document = .ok output) :
    (((document.get? "errors").getD .null = .null ∧ output.errors = none) ∨
      ∃ entries diagnostics, ((document.get? "errors").getD .null).visit = .ok entries ∧
        entries.mapM Diagnostic.ofJson = .ok diagnostics ∧ output.errors = some diagnostics) ∧
    ∃ files : Members, files.mapM readFile = .ok output.contracts ∧
      (((document.get? "contracts").getD .null).truthy = true ∧
          (document.get? "contracts").getD .null = .obj files ∨
        ((document.get? "contracts").getD .null).truthy = false ∧ files = []) := by
  have contracts {errors : Option (List Diagnostic)} {output : CompilationOutput}
      (read : (do
        let files ← if ((document.get? "contracts").getD .null).truthy then
          ((document.get? "contracts").getD .null).membersFor .members else pure []
        let contracts ← files.mapM readFile
        pure ⟨errors, contracts⟩ : Except Failure CompilationOutput) = .ok output) :
      output.errors = errors ∧ ∃ files : Members, files.mapM readFile = .ok output.contracts ∧
        (((document.get? "contracts").getD .null).truthy = true ∧
            (document.get? "contracts").getD .null = .obj files ∨
          ((document.get? "contracts").getD .null).truthy = false ∧ files = []) := by
    split at read
    · rename_i full
      obtain ⟨files, given, read⟩ := bind_eq_ok read
      obtain ⟨contracts, listed, read⟩ := bind_eq_ok read
      cases read
      refine ⟨rfl, files, listed, .inl ⟨full, ?_⟩⟩
      cases shape : (document.get? "contracts").getD .null with
      | obj members =>
        rw [shape] at given
        rw [Except.ok.inj given]
      | _ =>
        rw [shape] at given
        cases given
    · rename_i empty
      obtain ⟨files, given, read⟩ := bind_eq_ok read
      cases given
      obtain ⟨contracts, listed, read⟩ := bind_eq_ok read
      cases read
      exact ⟨rfl, [], listed, .inr ⟨Bool.eq_false_iff.mpr empty, rfl⟩⟩
  rw [ofMembers] at read
  split at read
  · rename_i absent
    obtain ⟨same, files⟩ := contracts read
    exact ⟨.inl ⟨absent, same⟩, files⟩
  · obtain ⟨entries, visited, read⟩ := bind_eq_ok read
    obtain ⟨diagnostics, listed, read⟩ := bind_eq_ok read
    obtain ⟨same, files⟩ := contracts read
    exact ⟨.inr ⟨entries, diagnostics, visited, listed, same⟩, files⟩

/-- A text is no diagnostic, so where texts were read as diagnostics there was none. -/
theorem nil_of_texts {α : Type} {list : List α} {text : α → Text}
    {diagnostics : List Diagnostic}
    (listed : (list.map fun item => Json.str (text item)).mapM Diagnostic.ofJson =
      .ok diagnostics) :
    list = [] := by
  cases list with
  | nil => rfl
  | cons item list =>
    rw [List.map_cons, List.mapM_cons] at listed
    obtain ⟨diagnostic, read, -⟩ := bind_eq_ok listed
    cases read

/-- The diagnostics that were read are the entries of the error list. -/
theorem ofMembers_diagnostics {document : Members} {output : CompilationOutput}
    (read : ofMembers document = .ok output) :
    output.diagnostics.map (fun diagnostic => diagnostic.isWarning = false) =
      (errorEntries document).map IsError := by
  rw [diagnostics, errorEntries]
  rcases (ofMembers_ok read).1 with ⟨absent, none⟩ | ⟨entries, diagnostics, visited, listed, some⟩
  · rw [none]
    cases given : document.get? "errors" with
    | none => rfl
    | some errors =>
      rw [given, Option.getD_some] at absent
      rw [absent]
      rfl
  · rw [some, Option.getD_some, map_of_mapM_ok diagnostic_ofJson listed]
    cases given : document.get? "errors" with
    | none =>
      rw [given] at visited
      cases visited
    | some errors =>
      rw [given, Option.getD_some] at visited
      cases errors with
      | arr items =>
        cases visited
        rfl
      | str text =>
        cases visited
        rw [nil_of_texts listed]
        rfl
      | obj members =>
        cases visited
        rw [nil_of_texts listed]
        rfl
      | _ => cases visited

theorem readFile_ok (file : Text × Json) (contracts : Text × List ContractOutput)
    (done : readFile file = .ok contracts) :
    (contracts.2.map fun contract => (contracts.1, contract)) =
      (file.2.asObject?.getD []).map fun (name, contract) =>
        (file.1, (⟨name, interfaceOf contract, codeOf contract⟩ : ContractOutput)) := by
  obtain ⟨outputs, read, rest⟩ := bind_eq_ok done
  cases rest
  rw [readContracts] at read
  obtain ⟨members, given, listed⟩ := bind_eq_ok read
  cases shape : file.2 with
  | obj members' =>
    rw [shape] at given
    obtain rfl := Except.ok.inj given
    exact map_of_mapM_ok (fun entry output read => by rw [contract_ofJson read]) listed
  | _ =>
    rw [shape] at given
    cases given

theorem ofMembers_files {document : Members} {output : CompilationOutput}
    (read : ofMembers document = .ok output) :
    (((document.get? "contracts").bind Json.asObject?).getD []).mapM readFile =
      .ok output.contracts := by
  obtain ⟨files, listed, given⟩ := (ofMembers_ok read).2
  have shape : ((document.get? "contracts").bind Json.asObject?).getD [] = files := by
    cases present : document.get? "contracts" with
    | none =>
      rw [present] at given
      rcases given with ⟨full, -⟩ | ⟨-, rfl⟩
      · cases full
      · rfl
    | some value =>
      rw [present, Option.getD_some] at given
      rcases given with ⟨-, rfl⟩ | ⟨empty, rfl⟩
      · rfl
      · cases value with
        | obj members =>
          obtain rfl : members = [] := by simpa [Json.truthy] using empty
          rfl
        | _ => rfl
  rw [shape, listed]

theorem ofMembers_contractItems {document : Members} {output : CompilationOutput}
    (read : ofMembers document = .ok output) :
    output.contractItems = (contractEntries document).map fun (file, name, contract) =>
      (file, ⟨name, interfaceOf contract, codeOf contract⟩) := by
  rw [contractItems, contractEntries, List.flatMap,
    map_of_mapM_ok readFile_ok (ofMembers_files read), List.flatMap, List.map_flatten, List.map_map]
  simp only [Function.comp_def, List.map_map]

/-- What an artifact of a contract holds. -/
def contentIn (layout : Layout) (contract : Json) : ArtifactKind → Json
  | .bin => codeOf contract
  | .abi => .str ((interfaceOf contract).print layout)

/-- The artifact of one kind for a contract. -/
def artifactOf (layout : Layout) (entry : Text × Text × Json) (kind : ArtifactKind) :
    Artifact :=
  ⟨Artifact.keyOf entry.1 entry.2.1, kind, contentIn layout entry.2.2 kind⟩

theorem collect_entries {document : Members} {output : CompilationOutput}
    (read : ofMembers document = .ok output) (kinds : List ArtifactKind) (layout : Layout) :
    Artifact.collect output kinds layout =
      (contractEntries document).flatMap fun entry =>
        ([.bin, .abi].filter (kinds.contains ·)).map (artifactOf layout entry) := by
  have each (entry : Text × Text × Json) :
      Artifact.ofContract kinds layout entry.1
          ⟨entry.2.1, interfaceOf entry.2.2, codeOf entry.2.2⟩ =
        ([.bin, .abi].filter (kinds.contains ·)).map (artifactOf layout entry) := by
    rw [Artifact.ofContract]
    by_cases bin : kinds.contains .bin <;> by_cases abi : kinds.contains .abi <;>
      simp_all [artifactOf, contentIn]
  rw [Artifact.collect, ofMembers_contractItems read, List.flatMap_map]
  exact congrArg (contractEntries document).flatMap (funext each)

theorem ofText_some {text : Text} {output : CompilationOutput}
    (done : ofText text = .ok (some output)) :
    ∃ document, Json.read text = .ok (.obj document) ∧ ofMembers document = .ok output := by
  rw [ofText] at done
  split at done
  · cases done
  · obtain ⟨document, reads, done⟩ := bind_eq_ok done
    cases document with
    | obj members =>
      obtain ⟨output', parsed, done⟩ := bind_eq_ok done
      cases done
      exact ⟨members, reads, parsed⟩
    | _ => cases done

theorem any_isError_iff {document : Members} {output : CompilationOutput}
    (read : ofMembers document = .ok output) :
    output.diagnostics.any (!·.isWarning) = true ↔
      ∃ entry ∈ errorEntries document, IsError entry := by
  have same : True ∈ output.diagnostics.map (fun diagnostic => diagnostic.isWarning = false) ↔
      True ∈ (errorEntries document).map IsError := by
    rw [ofMembers_diagnostics read]
  simpa [List.mem_map] using same

end CompilationOutput

namespace Direct

/-- Hand the request for the files to the compiler. -/
def ask (context : Context) (compiler : Compiler) : Action Text := do
  let request ← request context
  if context.has .verbose then Action.print (announcement request)
  let callback ← importCallback context
  compiler.compile (request.print .compact) callback

theorem compile_eq (context : Context) (compiler : Compiler) :
    compile context compiler = (do
      let output ← ask context compiler
      match CompilationOutput.ofText output with
      | .ok output => return output
      | .error (.malformed error) => .fail (.compiler (.answerMalformed error))
      | .error failure => .fail failure) := by
  rw [compile, ask, bind_assoc]
  refine congrArg _ (funext fun request => ?_)
  cases context.has .verbose with
  | true =>
    rw [if_pos rfl, if_pos rfl, bind_assoc]
    exact congrArg _ (funext fun _ => (bind_assoc _ _ _).symm)
  | false =>
    rw [if_neg Bool.false_ne_true, if_neg Bool.false_ne_true]
    exact (bind_assoc _ _ _).symm

end Direct

end SolidityBuild
