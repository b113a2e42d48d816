import BlockPlayer.CommandLine.Execution
import BlockPlayer.Proofs.Format.Document

/-!
# Programs read back

Commands, instructions, programs and blocks are read back from what is written for them, on one line or on
several, and with a line break behind it or without (`ReadsBack`). The text that comes of compiling a file is
such a text, so it can be read again (`programs_read_back`).
-/

namespace BlockPlayer

open Json (Draft Error NumberFree NumberFreeItems NumberFreeMembers readList toDraft)

/-- What is written for a value is read as `a`, however it is laid out and whether or not its line ends. -/
def Json.ReadsBack {α : Type} (reader : Draft → Except Error α) (j : Json) (a : α) : Prop :=
  read reader j.compact = .ok a ∧ read reader j.pretty = .ok a ∧
    read reader (j.pretty ++ "\n") = .ok a

/-- A value without numbers is read back if its draft is read. -/
theorem Json.ReadsBack.of_draft {α : Type} {reader : Draft → Except Error α} {j : Json} {a : α}
    (hj : NumberFree j) (h : reader (toDraft j) = .ok a) : ReadsBack reader j a := by
  refine ⟨?_, ?_, ?_⟩
  · rw [compact, read_write reader hj, h]
  · rw [pretty, read_write reader hj, h]
  · rw [pretty, read_write_newline reader hj, h]

/-! ## Commands and instructions -/

theorem Command.read_toJson (depth : Nat) (c : Command) : read depth (toDraft c.toJson) = .ok c := by
  cases c with
  | perform a => cases a <;> rfl
  | reset => rfl

theorem Command.numberFree_toJson (c : Command) : NumberFree c.toJson := ⟨trivial, trivial⟩

namespace Instruction

theorem read_toJson (depth : Nat) (i : Instruction) : read depth (toDraft i.toJson) = .ok i := by
  have hcommand : Command.read (depth + 1) (toDraft i.command.toJson) = .ok i.command :=
    i.command.read_toJson (depth + 1)
  show (record depth).read .text _ (.object [(.ok "instructionId", .text (.ok i.id)),
    (.ok "command", toDraft i.command.toJson)] .closed) = _
  simp [record, Json.Record.read, Json.Record.readMembers, Json.readText, hcommand, bind,
    Except.bind, Json.mapError_ok, Json.Tail.finish, Json.Tail.check]

theorem numberFree_toJson (i : Instruction) : NumberFree i.toJson :=
  ⟨trivial, i.command.numberFree_toJson, trivial⟩

end Instruction

/-! ## Programs -/

theorem Program.read_toJson (p : Program) : read (toDraft (Program.toJson p)) = .ok p := by
  have hitems : readList (Instruction.read 1) (.array (p.map fun i => toDraft i.toJson) .closed)
      = .ok (p.map id) := Json.readList_map fun i _ => i.read_toJson 1
  rw [toJson, FlatDocument.toDraft_array, read, hitems, List.map_id]

theorem Program.numberFree_toJson (p : Program) : NumberFree (Program.toJson p) := by
  refine Json.numberFreeItems_iff.mpr fun j hj => ?_
  obtain ⟨i, -, rfl⟩ := List.mem_map.mp hj
  exact i.numberFree_toJson

/-! ## What is printed -/

/-- What is printed when a file is compiled. -/
theorem CommandLine.carryOut_compile {s : Surroundings} {settings : Settings} {file : String}
    {policy : Option Policy} {p : Program}
    (h : compileFile s.files s.fresh settings.compileOptions file = .ok p) :
    carryOut s settings (.compile file policy) = .ok [(0, (Program.toJson p).pretty ++ "\n")] := by
  rw [carryOut, h]
  rfl

/--
**Programs, instructions and blocks are read back as they were written**, on one line or on several: a
program of any length, with any ids and commands, and a block whose kind comes from a tag, with a link or
without. What is printed when a file is compiled is read as the program that it was compiled to.
-/
theorem programs_read_back :
    (∀ p : Program, Json.ReadsBack Program.read (Program.toJson p) p) ∧
    (∀ i : Instruction, Json.ReadsBack (Instruction.read 0) i.toJson i) ∧
    (∀ b : Block, b.kind.FromTag → Json.ReadsBack (Block.read .text) b.toJson b) ∧
    (∀ (s : CommandLine.Surroundings) (settings : Settings) (file : String)
      (policy : Option Policy) (p : Program),
      compileFile s.files s.fresh settings.compileOptions file = .ok p →
      ∃ text, CommandLine.carryOut s settings (.compile file policy) = .ok [(0, text)] ∧
        Json.read Program.read text = .ok p) := by
  have hprogram (p : Program) : Json.ReadsBack Program.read (Program.toJson p) p :=
    .of_draft (Program.numberFree_toJson p) (Program.read_toJson p)
  refine ⟨hprogram, fun i => ?_, fun b hb => ?_, fun s settings file policy p hp => ?_⟩
  · exact .of_draft i.numberFree_toJson (i.read_toJson 0)
  · refine .of_draft b.numberFree_toJson ?_
    rw [Block.read_toJson, Block.retagged_of_fromTag hb]
  · obtain ⟨-, -, hprinted⟩ := hprogram p
    exact ⟨_, CommandLine.carryOut_compile hp, hprinted⟩

end BlockPlayer
