import DocForm.Vocabulary

/-! Checkbox options: their states, the modes that allow them, and the markers they are
written with. -/

namespace DocForm

inductive CheckboxMode where
  /-- A task list of five states. -/
  | multi
  /-- A checklist of two states. -/
  | simple
  /-- Every option has to be answered yes or no. -/
  | explicit
deriving DecidableEq, Repr, Inhabited

def CheckboxMode.name : CheckboxMode → String
  | .multi => "multi"
  | .simple => "simple"
  | .explicit => "explicit"

instance : Vocabulary CheckboxMode :=
  ⟨"checkbox mode", [.multi, .simple, .explicit], CheckboxMode.name⟩

inductive CheckboxState where
  | todo
  | done
  | incomplete
  | active
  | na
  | unfilled
  | yes
  | no
deriving DecidableEq, Repr, Inhabited

namespace CheckboxState

def all : List CheckboxState :=
  [.todo, .done, .incomplete, .active, .na, .unfilled, .yes, .no]

def name : CheckboxState → String
  | .todo => "todo"
  | .done => "done"
  | .incomplete => "incomplete"
  | .active => "active"
  | .na => "na"
  | .unfilled => "unfilled"
  | .yes => "yes"
  | .no => "no"

instance : Vocabulary CheckboxState := ⟨"checkbox state", all, name⟩

def allowedIn (mode : CheckboxMode) : CheckboxState → Bool
  | .todo | .done => mode = .multi || mode = .simple
  | .incomplete | .active | .na => mode = .multi
  | .unfilled | .yes | .no => mode = .explicit

/-- The state of an option that nobody has touched. -/
def initial : CheckboxMode → CheckboxState
  | .multi | .simple => .todo
  | .explicit => .unfilled

def isFinal : CheckboxState → Bool
  | .done | .na | .yes | .no => true
  | .todo | .incomplete | .active | .unfilled => false

def isDone : CheckboxState → Bool
  | .done | .yes => true
  | _ => false

def ofMarker? : String → Option CheckboxState
  | "[ ]" => some .todo
  | "[x]" | "[X]" => some .done
  | "[/]" => some .incomplete
  | "[*]" => some .active
  | "[-]" => some .na
  | "[y]" | "[Y]" => some .yes
  | "[n]" | "[N]" => some .no
  | _ => none

theorem initial_allowed (mode : CheckboxMode) : (initial mode).allowedIn mode = true := by
  cases mode <;> rfl

end CheckboxState

end DocForm
