import GattPeripheral.Proofs.Config.Editing

/-!
# Saving and loading a configuration

What is written for a configuration is a file that nobody has edited, in one of the ways to lay it out. Main statement:
`Config.load_save`.
-/

namespace GattPeripheral

open Json (Apart Blank Reader Reads)

theorem Config.readable (c : Config) (depth : Nat) (blanks rest : List Char) (blank : Blank blanks) (apart : Apart rest) :
    Reads (Reader.record shape) (blanks ++ (Json.spread depth c.toJson ++ rest)) c rest :=
  c.edits_self.treats (Json.spells_spread depth c.toJson) blank apart

/-- Loading what was saved gives the configuration back, whatever it holds. -/
theorem Config.load_save (c : Config) : load c.save = .ok c := by
  have whole := readable c 0 [] [] Json.blank_nil Json.apart_nil
  rw [List.append_nil, List.nil_append, ← String.toList_ofList (l := Json.spread 0 c.toJson)] at whole
  exact whole.document

end GattPeripheral
