import SolidityBuild.Proofs.Artifact.Confined
import SolidityBuild.Proofs.Direct.Answer
import SolidityBuild.Proofs.Json.Limits

/-! # Artifacts mirror the answer

Every contract of an answer has an artifact of each selected kind, in the order of the answer, and
nothing else has one. The code is handed over as it stands there, and the interface is printed so
that it reads as what it was. Names of places are made flat, and that is the only reason for which
two contracts can get one name.
-/

namespace SolidityBuild

theorem exists_of_mapM_ok {α β : Type} {read : α → Except Failure β} {list : List α}
    {results : List β} (all : list.mapM read = .ok results) {item : α} (member : item ∈ list) :
    ∃ result, read item = .ok result := by
  induction list generalizing results with
  | nil => cases member
  | cons first list ih =>
    rw [List.mapM_cons] at all
    obtain ⟨result, here, all⟩ := bind_eq_ok all
    obtain ⟨rest, later, -⟩ := bind_eq_ok all
    rcases List.mem_cons.mp member with rfl | member
    · exact ⟨result, here⟩
    · exact ih later member

namespace Json

theorem membersFor_ok {use : ValueUse} {value : Json} {members : Members}
    (read : value.membersFor use = .ok members) : value = .obj members := by
  cases value with
  | obj members' => rw [Except.ok.inj read]
  | _ => cases read

theorem memberOr_object {value default member : Json} {key : Text}
    (read : value.memberOr key default = .ok member) :
    ∃ members : Members, value = .obj members ∧ member = (members.get? key).getD default := by
  obtain ⟨members, given, read⟩ := bind_eq_ok read
  cases read
  exact ⟨members, membersFor_ok given, rfl⟩

theorem Fits.members {depth : Nat} {members : Members} (fits : Fits depth (.obj members)) :
    members.keys.Nodup ∧ ∀ member ∈ members, Fits depth member.2 := by
  cases fits with
  | obj unique each => exact ⟨unique, fun member listed => (each member listed).mono (by omega)⟩

theorem Fits.member {depth : Nat} {members : Members} {key : Text} {value : Json}
    (fits : Fits depth (.obj members)) (given : members.get? key = some value) :
    Fits depth value := by
  cases fits with
  | obj unique each => exact ((Fits.obj unique each).get? given).mono (by omega)

end Json

namespace CompilationOutput

/-- The code of a contract, a member of a member of a member: it is empty if one of them is
    absent. -/
inductive HasCode (contract : Members) : Json → Prop where
  | noAssembly (absent : contract.get? "evm" = none) : HasCode contract (.str "")
  | noBytecode {evm : Members} (assembly : contract.get? "evm" = some (.obj evm))
      (absent : evm.get? "bytecode" = none) : HasCode contract (.str "")
  | noObject {evm bytecode : Members} (assembly : contract.get? "evm" = some (.obj evm))
      (code : evm.get? "bytecode" = some (.obj bytecode))
      (absent : bytecode.get? "object" = none) : HasCode contract (.str "")
  | object {evm bytecode : Members} {object : Json}
      (assembly : contract.get? "evm" = some (.obj evm))
      (code : evm.get? "bytecode" = some (.obj bytecode))
      (given : bytecode.get? "object" = some object) : HasCode contract object

/-- The artifact of a contract is one of this kind: it has the flat name of the contract, and holds
    its code or a text that reads as its interface. -/
inductive Mirrors : Text × Text × Json → ArtifactKind → Artifact → Prop where
  | bin {file name : Text} {contract : Members} {code : Json} (has : HasCode contract code) :
      Mirrors (file, name, .obj contract) .bin ⟨Artifact.keyOf file name, .bin, code⟩
  | abi {file name : Text} {contract : Members} {text : Text}
      (reads : Json.read text = .ok ((contract.get? "abi").getD (.arr []))) :
      Mirrors (file, name, .obj contract) .abi ⟨Artifact.keyOf file name, .abi, .str text⟩

/-- What is read as the code of a contract is its code: on the way to it there are objects. -/
theorem contract_read {name : Text} {contract : Json} {output : ContractOutput}
    (read : ContractOutput.ofJson name contract = .ok output) :
    ∃ members : Members, contract = .obj members ∧ HasCode members (codeOf contract) := by
  have same := congrArg ContractOutput.bytecode (contract_ofJson read)
  obtain ⟨evm, first, read⟩ := bind_eq_ok read
  obtain ⟨bytecode, second, read⟩ := bind_eq_ok read
  obtain ⟨object, third, read⟩ := bind_eq_ok read
  obtain ⟨abi, -, read⟩ := bind_eq_ok read
  cases read
  obtain ⟨members, rfl, evm_eq⟩ := Json.memberOr_object first
  obtain ⟨assembly, rfl, bytecode_eq⟩ := Json.memberOr_object second
  obtain ⟨code, rfl, object_eq⟩ := Json.memberOr_object third
  refine ⟨members, rfl, ?_⟩
  rw [← show object = codeOf (.obj members) from same, object_eq]
  -- Behind an absent member there are no others.
  cases given : members.get? "evm" with
  | none =>
    rw [given] at evm_eq
    cases evm_eq
    cases bytecode_eq
    exact .noAssembly given
  | some value =>
    rw [given] at evm_eq
    cases evm_eq
    cases given' : assembly.get? "bytecode" with
    | none =>
      rw [given'] at bytecode_eq
      cases bytecode_eq
      exact .noBytecode given given'
    | some value =>
      rw [given'] at bytecode_eq
      cases bytecode_eq
      cases given'' : code.get? "object" with
      | none => exact .noObject given given' given''
      | some object => exact .object given given' given''

/-- Where an answer has contracts there are objects, of files and of contracts: none is passed
    over. -/
def Housed (document : Members) : Prop :=
  ∀ value, document.get? "contracts" = some value → value.truthy = true →
    ∃ files : Members, value = .obj files ∧ ∀ file ∈ files, ∃ contracts, file.2 = .obj contracts

section

variable {document : Members} {output : CompilationOutput}

theorem housed_of_read (read : ofMembers document = .ok output) : Housed document := by
  intro value given full
  obtain ⟨files, listed, shape⟩ := (ofMembers_ok read).2
  rw [given, Option.getD_some] at shape
  rcases shape with ⟨-, rfl⟩ | ⟨empty, -⟩
  · refine ⟨files, rfl, fun file member => ?_⟩
    obtain ⟨contracts, here⟩ := exists_of_mapM_ok listed member
    obtain ⟨outputs, here, -⟩ := bind_eq_ok here
    obtain ⟨members, object, -⟩ := bind_eq_ok here
    exact ⟨members, Json.membersFor_ok object⟩
  · rw [full] at empty
    cases empty

theorem contract_of_entry (read : ofMembers document = .ok output) {entry : Text × Text × Json}
    (member : entry ∈ contractEntries document) :
    ∃ contract, ContractOutput.ofJson entry.2.1 entry.2.2 = .ok contract := by
  obtain ⟨file, listed, inside⟩ := List.mem_flatMap.mp member
  obtain ⟨⟨name, contract⟩, present, rfl⟩ := List.mem_map.mp inside
  obtain ⟨contracts, here⟩ := exists_of_mapM_ok (ofMembers_files read) listed
  obtain ⟨outputs, here, -⟩ := bind_eq_ok here
  obtain ⟨members, object, all⟩ := bind_eq_ok here
  rw [Json.membersFor_ok object] at present
  exact exists_of_mapM_ok all present

theorem mem_contractEntries {entry : Text × Text × Json} :
    entry ∈ contractEntries document ↔ ∃ files contracts : Members,
      document.get? "contracts" = some (.obj files) ∧ (entry.1, .obj contracts) ∈ files ∧
        entry.2 ∈ contracts := by
  rw [contractEntries]
  cases given : document.get? "contracts" with
  | none => simp
  | some value =>
    cases value with
    | obj files =>
      simp only [Option.bind_some, Json.asObject?, Option.getD_some, List.mem_flatMap,
        List.mem_map, Option.some.injEq, Json.obj.injEq]
      constructor
      · rintro ⟨⟨file, value⟩, listed, ⟨name, contract⟩, inside, rfl⟩
        cases value with
        | obj contracts => exact ⟨files, contracts, rfl, listed, inside⟩
        | _ => cases inside
      · rintro ⟨_, contracts, rfl, listed, inside⟩
        exact ⟨_, listed, entry.2, inside, rfl⟩
    | _ => simp [Json.asObject?]

theorem nodup_entries {depth : Nat} (fits : Json.Fits depth (.obj document)) :
    ((contractEntries document).map fun (file, name, _) => (file, name)).Nodup := by
  rw [contractEntries, List.map_flatMap]
  cases given : document.get? "contracts" with
  | none => exact List.nodup_nil
  | some value =>
    cases value with
    | obj files =>
      obtain ⟨unique, each⟩ := (fits.member given).members
      rw [Option.bind_some, Json.asObject?, Option.getD_some]
      refine List.nodup_flatMap.mpr ⟨fun file listed => ?_, ?_⟩
      · rw [List.map_map]
        cases shape : file.2 with
        | obj contracts =>
          have fits := each file listed
          rw [shape] at fits
          refine List.Nodup.of_map Prod.snd ?_
          rw [List.map_map]
          exact fits.members.1
        | _ => exact List.nodup_nil
      · refine (List.pairwise_map.mp unique).imp fun differ => ?_
        rintro ⟨file, name⟩ first second
        obtain ⟨_, here, same⟩ := List.mem_map.mp first
        obtain ⟨_, -, rfl⟩ := List.mem_map.mp here
        obtain ⟨_, there, same'⟩ := List.mem_map.mp second
        obtain ⟨_, -, rfl⟩ := List.mem_map.mp there
        exact differ ((Prod.mk.inj same).1.trans (Prod.mk.inj same').1.symm)
    | _ => exact List.nodup_nil

theorem fits_interface {depth : Nat} (fits : Json.Fits depth (.obj document)) {file name : Text}
    {contract : Members} (member : (file, name, .obj contract) ∈ contractEntries document) :
    Json.Fits depth ((contract.get? "abi").getD (.arr [])) := by
  obtain ⟨files, contracts, given, listed, inside⟩ := mem_contractEntries.mp member
  have inFile := (fits.member given).members.2 _ listed
  have whole := inFile.members.2 _ inside
  cases interface : contract.get? "abi" with
  | none =>
    cases whole with
    | obj => exact .arr (List.forall_mem_nil _)
  | some value => exact whole.member interface

/-- The artifact of a contract mirrors it. -/
theorem artifactOf_mirrors {depth : Nat} (fits : Json.Fits depth (.obj document))
    (within : depth ≤ Json.nestingLimit) (read : ofMembers document = .ok output)
    {entry : Text × Text × Json} (member : entry ∈ contractEntries document) (layout : Layout)
    (kind : ArtifactKind) : Mirrors entry kind (artifactOf layout entry kind) := by
  obtain ⟨file, name, contract⟩ := entry
  obtain ⟨_, here⟩ := contract_of_entry read member
  obtain ⟨members, rfl, has⟩ := contract_read here
  cases kind with
  | bin => exact .bin has
  | abi => exact .abi (Json.read_print ((fits_interface fits member).mono within) layout)

end

end CompilationOutput

namespace Artifact

open CompilationOutput

theorem fileName_eq_iff {first second : Artifact} (kind : first.kind = second.kind) :
    first.fileName = second.fileName ↔ first.key = second.key := by
  rw [← Text.toList_inj, toList_fileName, toList_fileName, kind, List.append_cancel_right_eq,
    Text.toList_inj]

/-- The name with a low line for each character that separates names. -/
def flattened (name : Text) : List Rune :=
  name.toList.map fun c => if c ∈ ":./\\".runes then .char '_' else c

theorem toList_keyOf (file name : Text) :
    (keyOf file name).toList = flattened (file ++ ":" ++ name) := by
  rw [keyOf, Text.toList_ofList, flattened]
  refine congrArg (List.map · _) (funext fun c => ?_)
  simp [isUnsafe, String.runes_eq, or_assoc]

/-- What is collected of an accepted answer: one artifact of each selected kind for every contract
    that the document has, in the order of the document. -/
theorem collect_mirrors {text : Text} {output : CompilationOutput}
    (accepted : CompilationOutput.ofText text = .ok (some output)) (layout : Layout) :
    ∃ document, Json.read text = .ok (.obj document) ∧ Housed document ∧
      ((contractEntries document).map fun (file, name, _) => (file, name)).Nodup ∧
      (∀ kinds, collect output kinds layout = (contractEntries document).flatMap fun entry =>
        ([.bin, .abi].filter (kinds.contains ·)).map (artifactOf layout entry)) ∧
      (∀ entry ∈ contractEntries document, ∀ kind,
        Mirrors entry kind (artifactOf layout entry kind)) ∧
      (∀ kind, (collect output [.bin, .abi] layout).filter (·.kind = kind) =
        collect output [kind] layout) ∧
      ∀ first second kind,
        (artifactOf layout first kind).fileName = (artifactOf layout second kind).fileName ↔
          flattened (first.1 ++ ":" ++ first.2.1) = flattened (second.1 ++ ":" ++ second.2.1) := by
  obtain ⟨document, reads, parsed⟩ := ofText_some accepted
  have fits := Json.read_fits reads
  refine ⟨document, reads, housed_of_read parsed, nodup_entries fits,
    fun kinds => collect_entries parsed kinds layout,
    fun entry member => artifactOf_mirrors fits le_rfl parsed member layout,
    fun kind => ?_, fun first second kind => ?_⟩
  · rw [collect_entries parsed, collect_entries parsed, List.filter_flatMap]
    refine congrArg (contractEntries document).flatMap (funext fun entry => ?_)
    cases kind <;> rfl
  · have same : (artifactOf layout first kind).kind = (artifactOf layout second kind).kind := rfl
    rw [fileName_eq_iff same, ← Text.toList_inj, ← toList_keyOf, ← toList_keyOf]
    rfl

/-- Two files whose names differ in a separator only, with a contract that has neither code nor
    interface and one that has both. -/
private def shelved : Members := [
  ("contracts", .obj [
    ("a/b.sol", .obj [("A", .obj [])]),
    ("a_b.sol", .obj [("A", .obj [
      ("abi", .arr [.obj []]),
      ("evm", .obj [("bytecode", .obj [("object", .str "60")])])])])])]

private theorem read_shelved : Json.read (Json.obj shelved).compact = .ok (.obj shelved) := by
  decide

/-- The two contracts have four artifacts with two names. -/
theorem collect_mirrors_shelved :
    ∃ output, CompilationOutput.ofText (Json.obj shelved).compact = .ok (some output) ∧
      (collect output [.bin, .abi] .compact).map (fun made => (made.fileName, made.content)) = [
        (("a_b_sol_A.bin" : Text), .str ""), ("a_b_sol_A.abi", .str "[]"),
        ("a_b_sol_A.bin", .str "60"), ("a_b_sol_A.abi", .str "[\x7b\x7d]")] := by
  obtain ⟨output, parsed⟩ : ∃ output, ofMembers shelved = .ok output := ⟨_, rfl⟩
  have accepted : ofText (Json.obj shelved).compact = .ok (some output) := by
    rw [ofText, if_neg (by decide), read_shelved]
    change (ofMembers shelved >>= fun output => pure (some output)) = _
    rw [parsed]
    rfl
  obtain ⟨document, reads, -, -, listed, -⟩ := collect_mirrors accepted .compact
  obtain rfl : shelved = document := by
    rw [read_shelved] at reads
    exact Json.obj.inj (Except.ok.inj reads)
  refine ⟨output, accepted, ?_⟩
  rw [listed]
  decide

end Artifact

end SolidityBuild
