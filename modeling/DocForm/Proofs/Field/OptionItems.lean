import DocForm.Content
import DocForm.Proofs.Form.Walk

/-! The items that options are read from. Main statement: the options of a node are the outermost
items below it, so that no item is lost exactly when none lies inside another. -/

namespace DocForm

namespace Visit

/-- The node lies in a fence. -/
def inFence (visit : Visit) : Bool := visit.above.any Node.isFence

/-- The node lies in an item. -/
def inItem (visit : Visit) : Bool := visit.above.any Node.isItem

/-- The node is an item that lies in no other one and in no fence. -/
def isOutermost (visit : Visit) : Bool := visit.node.isItem && !visit.inFence && !visit.inItem

/-- The option that the node writes. -/
def option (visit : Visit) : OptionItem := .ofNode visit.node

end Visit

/-- What tells an option from others: its id and its line. -/
def OptionItem.key (option : OptionItem) : Option String × Option Nat := (option.id, option.line)

namespace Node

/-- What tells an item from others: its own id, trimmed, and its line. -/
def itemKey (item : Node) : Option String × Option Nat :=
  ((item.text? "id").bind Text.trim?, item.line?)

/-- All items below a node that lie in no fence, in the order of the document. -/
def items (node : Node) : List Visit :=
  (visitsAmong [] node.children).filter fun visit => visit.node.isItem && !visit.inFence

theorem itemsWithin_eq (node : Node) :
    node.itemsWithin =
      if node.isItem then [.ofNode node]
      else if node.isFence then []
      else itemsAmong node.children := by
  cases node
  rfl

end Node

/-- Below an item, as inside a fence, there are no outermost items. -/
theorem filter_isOutermost_eq_nil {above nodes : List Node}
    (within : above.any Node.isFence = true ∨ above.any Node.isItem = true) :
    (Node.visitsAmong above nodes).filter Visit.isOutermost = [] := by
  apply List.filter_eq_nil_iff.mpr
  intro visit member
  have suffix := Node.above_suffix_of_mem_visitsAmong member
  rcases within with fence | item
  · have inside : visit.inFence = true := Visit.any_above_of_suffix suffix fence
    simp [Visit.isOutermost, inside]
  · have inside : visit.inItem = true := Visit.any_above_of_suffix suffix item
    simp [Visit.isOutermost, inside]

mutual

/-- Outside all fences and items, the options at a node are its outermost items. -/
theorem Node.itemsWithin_eq_visits :
    ∀ {above : List Node} (node : Node), above.any Node.isFence = false →
      above.any Node.isItem = false →
      node.itemsWithin = ((node.visits above).filter Visit.isOutermost).map Visit.option
  | above, ⟨type, tag, attributes, children, lines⟩, noFence, noItem => by
    let node : Node := ⟨type, tag, attributes, children, lines⟩
    have deeper (fence : node.isFence = false) (item : node.isItem = false) :
        Node.itemsAmong children =
          ((Node.visitsAmong (node :: above) children).filter Visit.isOutermost).map Visit.option :=
      Node.itemsAmong_eq_visits children (by simp [fence, noFence]) (by simp [item, noItem])
    change node.itemsWithin = ((node.visits above).filter Visit.isOutermost).map Visit.option
    rw [Node.itemsWithin_eq, Node.visits_eq, List.filter_cons]
    cases item : node.isItem with
    | true =>
      have outermost : Visit.isOutermost ⟨above, node⟩ = true := by
        simp [Visit.isOutermost, Visit.inFence, Visit.inItem, item, noFence, noItem]
      rw [if_pos rfl, if_pos outermost, filter_isOutermost_eq_nil (.inr (by simp [item]))]
      rfl
    | false =>
      have passed : Visit.isOutermost ⟨above, node⟩ = false := by simp [Visit.isOutermost, item]
      rw [if_neg Bool.false_ne_true, if_neg (Bool.eq_false_iff.mp passed)]
      cases fence : node.isFence with
      | true => rw [if_pos rfl, filter_isOutermost_eq_nil (.inl (by simp [fence])), List.map_nil]
      | false => exact deeper fence item

theorem Node.itemsAmong_eq_visits :
    ∀ {above : List Node} (nodes : List Node), above.any Node.isFence = false →
      above.any Node.isItem = false →
      Node.itemsAmong nodes =
        ((Node.visitsAmong above nodes).filter Visit.isOutermost).map Visit.option
  | above, [], _, _ => rfl
  | above, child :: rest, noFence, noItem => by
    rw [Node.itemsAmong, Node.visitsAmong, List.filter_append, List.map_append,
      Node.itemsWithin_eq_visits child noFence noItem,
      Node.itemsAmong_eq_visits rest noFence noItem]

end

namespace Node

theorem optionItems_eq (node : Node) :
    node.optionItems = (node.items.filter fun visit => !visit.inItem).map Visit.option := by
  rw [optionItems, @itemsAmong_eq_visits [] node.children rfl rfl, items, List.filter_filter]
  refine congrArg (List.map Visit.option) (List.filter_congr fun visit _ => ?_)
  rw [Visit.isOutermost, Bool.and_comm]

/-- The options of a node are its items that lie in no other item, in the order of the document,
each with its own id and line. No item is lost exactly when there is none inside another. -/
theorem lists_every_item_iff (node : Node) :
    node.optionItems = (node.items.filter fun visit => !visit.inItem).map Visit.option ∧
      (node.optionItems.map OptionItem.key = node.items.map (·.node.itemKey) ↔
        ∀ visit ∈ node.items, visit.inItem = false) := by
  refine ⟨node.optionItems_eq, ?_⟩
  have keys : node.optionItems.map OptionItem.key =
      (node.items.filter fun visit => !visit.inItem).map (·.node.itemKey) := by
    rw [optionItems_eq, List.map_map]
    rfl
  rw [keys]
  constructor
  · intro same visit member
    have lengths := congrArg List.length same
    rw [List.length_map, List.length_map, List.length_filter_eq_length_iff] at lengths
    simpa using lengths visit member
  · intro outer
    rw [List.filter_eq_self.mpr fun visit member => by simp [outer visit member]]

/-- A list of dishes, with the soups listed below one of them. -/
def menu : Node where
  type := "tag"
  tag := some "single-select"
  attributes := .ofList [("id", .text "dish"), ("label", .text "Dish")]
  children := [⟨"list", none, ∅, [
    ⟨"item", none, .ofList [("id", .text "soup")], [
      ⟨"text", none, .ofList [("content", .text "[ ] Soup")], [], []⟩,
      ⟨"list", none, ∅, [⟨"item", none, .ofList [("id", .text "leek")],
        [⟨"text", none, .ofList [("content", .text "[x] Leek")], [], []⟩], [3]⟩], []⟩], [2]⟩,
    ⟨"item", none, .ofList [("id", .text "salad")],
      [⟨"text", none, .ofList [("content", .text "[ ] Salad")], [], []⟩], [4]⟩], []⟩]
  lines := [1]

/-- An item below another is no option. -/
theorem passed_over_leek :
    menu.items.map (·.node.itemKey) =
        [(some "soup", some 2), (some "leek", some 3), (some "salad", some 4)] ∧
      menu.optionItems.map OptionItem.key = [(some "soup", some 2), (some "salad", some 4)] := by
  decide +kernel

end Node

end DocForm
