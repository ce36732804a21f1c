import NextWord.Regex.Syntax
import NextWord.Regex.Width

/-!
# Items and alternatives

A sequence is read as a list of items. Alternatives are lists of items too, and before they become
an expression what they have in common is taken out: simple items that all of them start with stand
in front of the choice, and a choice between single characters and sets is one set. An item that
brings options of its own takes no part in this.
-/

namespace NextWord.Regex

structure Item where
  node : Regex
  width : Width
  /-- Whether the item is a group with options of its own. -/
  hasOptions : Bool := false

def sequence : List Item → Regex
  | [] => .empty
  | [item] => item.node
  | item :: items => .seq item.node (sequence items)

def sequenceWidth (items : List Item) : Width :=
  items.foldr (fun item w => item.width.plus w) Width.zero

/-- Whether two items are alike and simple. -/
def Item.isLike (a b : Item) : Bool :=
  !a.hasOptions && !b.hasOptions && a.node.isSimple && a.node == b.node

/-- Takes the items that all alternatives start with out of them: those items, the rest of the first
alternative, and the rests of the others. -/
def commonStart : List Item → List (List Item) → List Item × List Item × List (List Item)
  | [], others => ([], [], others)
  | item :: rest, others =>
    if others.all fun other => other.head?.any item.isLike then
      let (common, first, others) := commonStart rest (others.map List.tail)
      (item :: common, first, others)
    else ([], item :: rest, others)

/-- The set members that an alternative stands for, if it is a single item that names what it
accepts. -/
def membersOf? : List Item → Option (List SetItem)
  | [⟨.one test, _, false⟩] => test.members?
  | _ => none

def choiceItem (options : RegexOptions) (alternatives : List (List Item)) : Item :=
  match alternatives.mapM membersOf? with
  | some sets => ⟨.one (CharTest.ofItems options false sets.flatten), Width.one, false⟩
  | none =>
    let widths := alternatives.map sequenceWidth
    ⟨choice (alternatives.map sequence),
      widths.tail.foldl Width.orElse (widths.headD Width.zero), false⟩

/-- The items of alternatives, the first of them given apart. -/
def alternativeItems (options : RegexOptions) (first : List Item) (others : List (List Item)) :
    List Item :=
  match others with
  | [] => first
  | others =>
    let (common, first, others) := commonStart first others
    common ++ [choiceItem options (first :: others)]

end NextWord.Regex
