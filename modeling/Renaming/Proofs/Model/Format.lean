import Renaming.Model.Format
import Renaming.Proofs.Json.Record

/-!
# The model file reads back

Every declaration is read from its document as what it was, from the leaves of a model up to the
model (`Assembly.lawful`).
-/

namespace Renaming

open Json

/-! ## Members of types and methods -/

theorem FieldDecl.lawful : Lawful FieldDecl.json FieldDecl.ofJson? where
  printable d := printable_record (by simp [Lawful.text.printable])
  read d := by
    have hslots : record? ["name", "fieldType"] d.json =
        some [.given (text d.name), .given (text d.fieldType)] := record?_record rfl (by decide)
    rw [ofJson?, hslots]
    rfl

theorem PropertyDecl.lawful : Lawful PropertyDecl.json PropertyDecl.ofJson? where
  printable d := printable_record (by simp [Lawful.text.printable])
  read d := by
    have hslots : record? ["name", "propertyType"] d.json =
        some [.given (text d.name), .given (text d.propertyType)] := record?_record rfl (by decide)
    rw [ofJson?, hslots]
    rfl

theorem ParameterDecl.lawful : Lawful ParameterDecl.json ParameterDecl.ofJson? where
  printable d := printable_record (by simp [Lawful.text.printable])
  read d := by
    have hslots : record? ["name", "paramType"] d.json =
        some [.given (text d.name), .given (text d.parameterType)] := record?_record rfl (by decide)
    rw [ofJson?, hslots]
    rfl

theorem LocalDecl.lawful : Lawful LocalDecl.json LocalDecl.ofJson? where
  printable d := printable_record (by simp [Lawful.text.printable])
  read d := by
    have hslots : record? ["name", "localType"] d.json =
        some [.given (text d.name), .given (text d.localType)] := record?_record rfl (by decide)
    rw [ofJson?, hslots]
    rfl

/-! ## Methods, types and models -/

theorem MethodDecl.lawful : Lawful MethodDecl.json MethodDecl.ofJson? where
  printable d := printable_record (by
    simp [Lawful.text.printable, ParameterDecl.lawful.list.printable,
      LocalDecl.lawful.list.printable])
  read d := by
    have hslots : record? ["name", "returnType", "parameters", "locals", "body"] d.json =
        some [.given (text d.name), .given (text d.returnType),
          .given (array (d.parameters.map (·.json))), .given (array (d.locals.map (·.json))),
          .given (text d.body)] := record?_record rfl (by decide)
    rw [ofJson?, hslots]
    simp [Slot.withDefault, Lawful.text.read, ParameterDecl.lawful.list.read,
      LocalDecl.lawful.list.read]

theorem TypeDecl.lawful : Lawful TypeDecl.json TypeDecl.ofJson? where
  printable d := by
    have hbase : Printable ((d.baseType.map text).getD null) := by
      cases d.baseType with
      | none => exact .null
      | some base => exact Lawful.text.printable base
    apply printable_record
    simp [hbase, Lawful.text.printable, FieldDecl.lawful.list.printable,
      PropertyDecl.lawful.list.printable, MethodDecl.lawful.list.printable]
  read d := by
    -- A type without a base type has null in its place.
    have hbase : Slot.nullable text? (.given ((d.baseType.map text).getD null)) =
        some d.baseType := by
      cases d.baseType <;> rfl
    have hslots : record? ["namespace", "name", "baseType", "fields", "properties", "methods"]
        d.json = some [.given (text d.space), .given (text d.name),
          .given ((d.baseType.map text).getD null), .given (array (d.fields.map (·.json))),
          .given (array (d.properties.map (·.json))), .given (array (d.methods.map (·.json)))] :=
      record?_record rfl (by decide)
    rw [ofJson?, hslots]
    simp [Slot.withDefault, hbase, Lawful.text.read, FieldDecl.lawful.list.read,
      PropertyDecl.lawful.list.read, MethodDecl.lawful.list.read]

theorem Assembly.lawful : Lawful Assembly.json Assembly.ofJson? where
  printable a := printable_record (by
    simp [Lawful.text.printable, TypeDecl.lawful.list.printable])
  read a := by
    have hslots : record? ["name", "types"] a.json =
        some [.given (text a.name), .given (array (a.types.map (·.json)))] :=
      record?_record rfl (by decide)
    rw [ofJson?, hslots]
    simp [Slot.required, Slot.withDefault, Lawful.text.read, TypeDecl.lawful.list.read]

/-- A model is read back from the text of its file and from its document on one line. -/
theorem Assembly.text_reads_back (a : Assembly) :
    ofText? a.fileText = some a ∧ ofText? a.json.compact = some a :=
  ⟨lawful.decode?_pretty a, lawful.decode?_compact a⟩

end Renaming
