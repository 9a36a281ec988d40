import DocForm.Proofs.Form.Origin
import Mathlib.Logic.Relation

/-! What a form does not depend on. Main statement: a document is read as its first form, and
neither nodes without fields and groups nor what is put around the nodes of that form changes what
is read or refused. -/

namespace DocForm

namespace Node

/-- The node is neither the tag of a field nor the tag of a group. -/
def isPlain (node : Node) : Bool := !node.isFieldTag && !node.isGroupTag

/-- The same node with other nodes in it. -/
def withChildren (node : Node) (children : List Node) : Node := { node with children }

section WithChildren

variable (node : Node) (others : List Node)

@[simp] theorem children_withChildren : (node.withChildren others).children = others := rfl

@[simp] theorem isTag_withChildren (name : String) :
    (node.withChildren others).isTag name = node.isTag name := rfl

@[simp] theorem isGroupTag_withChildren :
    (node.withChildren others).isGroupTag = node.isGroupTag := rfl

@[simp] theorem fieldKind?_withChildren :
    (node.withChildren others).fieldKind? = node.fieldKind? := rfl

end WithChildren

/-- There is no field tag and no group tag at the node or below it. -/
inductive IsBare : Node → Prop where
  | mk {node : Node} (plain : node.isPlain = true)
      (below : ∀ child ∈ node.children, IsBare child) : IsBare node

end Node

/-- A change of nodes side by side, at one place outside every field tag. -/
inductive Edit : List Node → List Node → Prop where
  | insert (before added after : List Node) (bare : ∀ node ∈ added, node.IsBare) :
      Edit (before ++ after) (before ++ (added ++ after))
  | remove (before removed after : List Node) (bare : ∀ node ∈ removed, node.IsBare) :
      Edit (before ++ (removed ++ after)) (before ++ after)
  | wrap (before run after : List Node) (wrapper : Node) (plain : wrapper.isPlain = true) :
      Edit (before ++ (run ++ after)) (before ++ wrapper.withChildren run :: after)
  | inside (before after : List Node) {node : Node} {children : List Node}
      (outside : node.isFieldTag = false) (deeper : Edit node.children children) :
      Edit (before ++ node :: after) (before ++ node.withChildren children :: after)

/-- A change at one place of the first form of a document. -/
inductive EditInForm : Node → Node → Prop where
  | here {form : Node} {children : List Node} (isForm : form.isTag formTag = true)
      (edit : Edit form.children children) : EditInForm form (form.withChildren children)
  | deeper {node child edited : Node} (before after : List Node)
      (notForm : node.isTag formTag = false) (split : node.children = before ++ child :: after)
      (earlier : ∀ other ∈ before, firstForm? other = none) (edit : EditInForm child edited) :
      EditInForm node (node.withChildren (before ++ edited :: after))

/-- A landmark without what lies in its group. -/
def Landmark.emptied : Landmark → Landmark
  | .group node nested => .group (node.withChildren []) nested
  | .field node kind grouped => .field node kind grouped

/-- What a landmark adds does not depend on what lies in its group. -/
theorem Draft.step_emptied (settings : Settings) (draft : Draft) (landmark : Landmark) :
    draft.step settings landmark.emptied = draft.step settings landmark := by
  cases landmark <;> rfl

theorem Draft.foldlM_emptied (settings : Settings) (draft : Draft) (landmarks : List Landmark) :
    (landmarks.map Landmark.emptied).foldlM (Draft.step settings) draft =
      landmarks.foldlM (Draft.step settings) draft := by
  rw [List.foldlM_map]
  simp only [Draft.step_emptied]

namespace Node

theorem isPlain_iff {node : Node} :
    node.isPlain = true ↔ node.isGroupTag = false ∧ node.fieldKind? = none := by
  simp [isPlain, isFieldTag, and_comm]

theorem landmarksAmong_append (grouped : Bool) (first second : List Node) :
    landmarksAmong grouped (first ++ second) =
      landmarksAmong grouped first ++ landmarksAmong grouped second := by
  induction first with
  | nil => rfl
  | cons node rest ih => rw [List.cons_append, landmarksAmong, landmarksAmong, ih, List.append_assoc]

theorem landmarksAmong_eq_nil {grouped : Bool} {nodes : List Node}
    (none : ∀ node ∈ nodes, node.landmarks grouped = []) : landmarksAmong grouped nodes = [] := by
  induction nodes with
  | nil => rfl
  | cons node rest ih =>
    obtain ⟨here, later⟩ := List.forall_mem_cons.mp none
    rw [landmarksAmong, here, ih later, List.append_nil]

theorem IsBare.landmarks_eq_nil {node : Node} (bare : node.IsBare) (grouped : Bool) :
    node.landmarks grouped = [] := by
  induction bare with
  | mk plain below ih =>
    obtain ⟨noGroup, noField⟩ := isPlain_iff.mp plain
    rw [landmarks_of_other noGroup noField]
    exact landmarksAmong_eq_nil ih

theorem landmarksAmong_of_bare {nodes : List Node} (bare : ∀ node ∈ nodes, node.IsBare)
    (grouped : Bool) : landmarksAmong grouped nodes = [] :=
  landmarksAmong_eq_nil fun node member => (bare node member).landmarks_eq_nil grouped

/-- A node around others is passed through. -/
theorem landmarks_withChildren {wrapper : Node} (plain : wrapper.isPlain = true)
    (run : List Node) (grouped : Bool) :
    (wrapper.withChildren run).landmarks grouped = landmarksAmong grouped run := by
  obtain ⟨noGroup, noField⟩ := isPlain_iff.mp plain
  rw [landmarks_of_other (by rwa [isGroupTag_withChildren]) (by rwa [fieldKind?_withChildren]),
    children_withChildren]

end Node

/-- Edits keep all landmarks, but for what lies in groups. -/
theorem Edit.landmarks {nodes edited : List Node} (edit : Edit nodes edited) (grouped : Bool) :
    (Node.landmarksAmong grouped edited).map Landmark.emptied =
      (Node.landmarksAmong grouped nodes).map Landmark.emptied := by
  induction edit generalizing grouped with
  | insert before added after bare | remove before removed after bare =>
    simp only [Node.landmarksAmong_append, Node.landmarksAmong_of_bare bare, List.nil_append]
  | wrap before run after wrapper plain =>
    rw [Node.landmarksAmong_append, Node.landmarksAmong_append, Node.landmarksAmong_append,
      Node.landmarksAmong, Node.landmarks_withChildren plain]
  | @inside before after node children outside deeper ih =>
    have noField : node.fieldKind? = none := by simpa [Node.isFieldTag] using outside
    have same : ((node.withChildren children).landmarks grouped).map Landmark.emptied =
        (node.landmarks grouped).map Landmark.emptied := by
      rw [Node.landmarks_eq, Node.landmarks_eq grouped node, Node.isGroupTag_withChildren,
        Node.fieldKind?_withChildren, Node.children_withChildren, noField]
      split
      · exact congrArg (Landmark.group (node.withChildren []) grouped :: ·) (ih true)
      · exact ih grouped
    simp only [Node.landmarksAmong_append, Node.landmarksAmong, List.map_append, same]

theorem Node.form?_eq (node : Node) :
    node.form? = if node.isTag formTag then some node else Node.formAmong? node.children := by
  cases node
  rfl

theorem formAmong?_append {before : List Node} (earlier : ∀ other ∈ before, firstForm? other = none)
    (rest : List Node) : Node.formAmong? (before ++ rest) = Node.formAmong? rest := by
  induction before with
  | nil => rfl
  | cons other more ih =>
    obtain ⟨here, later⟩ := List.forall_mem_cons.mp earlier
    rw [List.cons_append, Node.formAmong?, form?_eq_firstForm?, here, ih later]
    rfl

/-- An edit in the first form leaves that form the first. -/
theorem EditInForm.firstForm {root edited : Node} (edit : EditInForm root edited) :
    ∃ form children, firstForm? root = some form ∧
      firstForm? edited = some (form.withChildren children) ∧ Edit form.children children := by
  induction edit with
  | @here form children isForm edit =>
    refine ⟨form, children, ?_, ?_, edit⟩
    · rw [← form?_eq_firstForm?, Node.form?_eq, if_pos isForm]
    · rw [← form?_eq_firstForm?, Node.form?_eq, Node.isTag_withChildren, if_pos isForm]
  | @deeper node child edited before after notForm split earlier _ ih =>
    obtain ⟨form, children, first, second, edit⟩ := ih
    have noForm : ¬ node.isTag formTag = true := by simp [notForm]
    refine ⟨form, children, ?_, ?_, edit⟩
    · rw [← form?_eq_firstForm?, Node.form?_eq, if_neg noForm, split, formAmong?_append earlier,
        Node.formAmong?, form?_eq_firstForm?, first]
      rfl
    · rw [← form?_eq_firstForm?, Node.form?_eq, Node.isTag_withChildren, if_neg noForm,
        Node.children_withChildren, formAmong?_append earlier, Node.formAmong?,
        form?_eq_firstForm?, second]
      rfl

variable {settings : Settings} {root : Node}

theorem readForm_withChildren {form : Node} {children : List Node}
    (edit : Edit form.children children) :
    readForm settings (form.withChildren children) = readForm settings form := by
  have same : (form.withChildren children).formLandmarks.foldlM (Draft.step settings) .empty =
      form.formLandmarks.foldlM (Draft.step settings) .empty := by
    rw [← Draft.foldlM_emptied, ← Draft.foldlM_emptied settings .empty form.formLandmarks]
    exact congrArg (List.foldlM (Draft.step settings) .empty) (edit.landmarks false)
  unfold readForm
  rw [same]
  rfl

theorem EditInForm.parseForm_eq {edited : Node} (edit : EditInForm root edited) :
    parseForm settings edited = parseForm settings root := by
  obtain ⟨form, children, first, second, inner⟩ := edit.firstForm
  rw [parseForm_of_firstForm? first, parseForm_of_firstForm? second, readForm_withChildren inner]

/-- A document is read as its first form, and edits there that touch no field and no group change
neither the form that is read nor the error. -/
theorem parseForm_eq_of_edits (settings : Settings) (root : Node) :
    (∀ form, firstForm? root = some form →
      parseForm settings root = parseForm settings form) ∧
      ∀ edited, Relation.ReflTransGen EditInForm root edited →
        parseForm settings edited = parseForm settings root := by
  constructor
  · intro form found
    have alone : firstForm? form = some form := by
      rw [← form?_eq_firstForm?, Node.form?_eq, if_pos (isTag_of_firstForm? found)]
    rw [parseForm_of_firstForm? found, parseForm_of_firstForm? alone]
  · intro edited edits
    induction edits with
    | refl => rfl
    | tail _ edit ih => rw [edit.parseForm_eq, ih]

/-- A document with a form whose only group holds some nodes. -/
def booking (children : List Node) : Node :=
  ⟨"document", none, .empty, [.sampleTag "form" "booking" 1 []
    [.sampleTag "field-group" "stay" 2 [] children]], []⟩

/-- A field that asks how long somebody stays. -/
def nights : Node :=
  .sampleTag "number-field" "nights" 4 [("label", .text "Nights")] [.sampleValue "2\n"]

/-- A title before the field and a box around it are passed over. -/
theorem parseForm_booking :
    let title : Node := ⟨"heading", none, .empty, [], [3]⟩
    let box : Node := ⟨"tag", some "callout", .empty, [], []⟩
    let edited := booking [title, box.withChildren [nights]]
    (∃ form, parseForm .standard (booking [nights]) = .ok form) ∧
      parseForm .standard edited = parseForm .standard (booking [nights]) := by
  intro title box edited
  have readable : (parseForm .standard (booking [nights])).toOption.isSome = true := by
    decide +kernel
  obtain ⟨form, found⟩ := Option.isSome_iff_exists.mp readable
  have inGroup {nodes others : List Node} (edit : Edit nodes others) :
      EditInForm (booking nodes) (booking others) :=
    .deeper [] [] rfl rfl (by simp) (.here rfl (.inside [] [] rfl edit))
  have titled : EditInForm (booking [nights]) (booking [title, nights]) :=
    inGroup (.insert [] [title] [nights] fun node member => by
      rw [List.mem_singleton.mp member]
      exact .mk rfl (by simp [title]))
  have boxed : EditInForm (booking [title, nights]) edited :=
    inGroup (.wrap [title] [nights] [] box rfl)
  refine ⟨⟨form, toOption_eq_some.mp found⟩, ?_⟩
  exact (parseForm_eq_of_edits .standard _).2 edited (.tail (.single titled) boxed)

end DocForm
