import ClassLift.Class.Detection
import ClassLift.Scan

set_option autoImplicit false

/-! # Conversion

The conversion scans a tree, and in every source file and every block of statements it
makes classes of the constructor functions found there. A `Converter` has the options and
the reporter, and keeps the names of the classes it made in the last run, and the lines it
wrote.
-/

namespace ClassLift

/-- Converts constructor functions into classes. -/
structure Converter where
  options : Options
  reporter : Reporter
  /-- The names of the classes that the last run made. -/
  classes : List String
  /-- The lines written so far. -/
  log : List String
  deriving Inhabited

/-- The conversion on its way. -/
abbrev Conversion := Traversal Converter

namespace Converter

/-- A converter that has done nothing yet. -/
def start (options : Options) : Converter := ⟨options, .start, [], []⟩

/-- The converter that has written one more line. -/
def write (x : Converter) (line : String) : Converter := { x with log := x.log ++ [line] }

/-- A warning is counted, and written if the reporter says so. -/
def warn (x : Converter) (about : Option Label) (name message : String) :
    Converter × Except Fault Unit :=
  match x.reporter.warn about name message with
  | (r, .ok (some line)) => ({ x with reporter := r }.write line, .ok ())
  | (r, .ok none) => ({ x with reporter := r }, .ok ())
  | (r, .error fault) => ({ x with reporter := r }, .error fault)

/-- A notice of the detection is reported. -/
def report (x : Converter) (n : Notice) : Converter :=
  (x.warn (some n.about) n.warning.name n.name).1

/-- The line about a class that was made. -/
def convertedLine (name : String) (line : Int) : String :=
  "DEBUG converted `" ++ name ++ "` into a class (line " ++ toString line ++ ")"

end Converter

namespace Conversion

/-- A candidate that has a method or a super class is made a class. -/
def commit (c : Candidate) : Conversion Unit := do
  if c.isTransformable then
    Traversal.edit c.commit
    Traversal.modifyOwn fun x => { x with classes := x.classes ++ [c.name] }
    let made ← Traversal.edit (Edit.cell c.statement)
    Traversal.modifyOwn (·.write (Converter.convertedLine c.name made.label.line))

/-- The statements of one block are converted. -/
def convertBlock (slot : Slot) : Conversion Unit := do
  let (result, notices) := (detect (← get).1 (← Traversal.own).options slot).run.run []
  Traversal.modifyOwn fun x => notices.foldl Converter.report x
  match result with
  | .ok candidates => candidates.forM commit
  | .error fault => throw fault

/-- The visit of a token: a source file or a block of statements is converted. -/
def visit : Scan.Visit Converter := fun slot _ => do
  let c ← Traversal.edit (Edit.cell slot)
  if c.label.kind = Kind.sourceFile ∨ c.label.kind = Kind.block then convertBlock slot

/-- How deep a scan can get that starts with the given store. On a way down, every token of
the store stands at most once, and between two of them at most three new ones: a class, its
body and a method. -/
def depthBound (s : Store) : Nat := 4 * s.size + 4

/-- Converts everything below a token. Gives the names of the classes made, in order. -/
def transform (root : Slot) : Conversion (List String) := do
  Traversal.modifyOwn fun x => { x with classes := [] }
  let depth := depthBound (← get).1
  ExceptT.adapt Scan.Interruption.fault (Scan.run visit depth root)
  return (← Traversal.own).classes

end Conversion

end ClassLift
