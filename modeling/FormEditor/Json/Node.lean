import FormEditor.Json.Token

/-! Reading never fails. It stops at the first token that does not fit and leaves a node that shows how far it
came: containers that were open at that point are marked as not closed, and a value that was due is a fault.
What is wrong with the text as a whole can so be told together with what is wrong with its values, in the
order in which both stand.

The reader keeps the containers that are open in a list of frames and takes one token at a time. -/

namespace FormEditor.Json

/-- A value as it stands in a text. A string without a text names half of a surrogate pair. -/
inductive Node where
  | null
  | bool (value : Bool)
  | number (numeral : Numeral)
  | string (text : Option String)
  | array (items : List Node) (closed : Bool)
  | object (members : List (Option String × Node)) (closed : Bool)
  | fault
  deriving Inhabited

namespace Node

mutual

/-- Whether a value was read to its end. -/
def intact : Node → Bool
  | .array items closed => closed && intactItems items
  | .object members closed => closed && intactMembers members
  | .fault => false
  | _ => true

def intactItems : List Node → Bool
  | [] => true
  | item :: items => intact item && intactItems items

def intactMembers : List (Option String × Node) → Bool
  | [] => true
  | (_, value) :: members => intact value && intactMembers members

end

end Node

/-- An open container: what stands in it before the value that is being read, latest first. -/
inductive Frame where
  | item (before : List Node)
  | member (before : List (Option String × Node)) (key : Option String)

/-- Where reading stands. -/
inductive Reader where
  | valueDue (outer : List Frame)
  | itemOrEnd (outer : List Frame)
  | afterItem (before : List Node) (outer : List Frame)
  | keyOrEnd (outer : List Frame)
  | keyDue (before : List (Option String × Node)) (outer : List Frame)
  | colonDue (before : List (Option String × Node)) (key : Option String) (outer : List Frame)
  | afterMember (before : List (Option String × Node)) (outer : List Frame)
  | done (root : Node)
  | excess (root : Node)
  | failed (root : Node)

namespace Reader

/-- A value is complete: it takes its place in the container around it. -/
def settle (value : Node) : List Frame → Reader
  | [] => .done value
  | .item before :: outer => .afterItem (value :: before) outer
  | .member before key :: outer => .afterMember ((key, value) :: before) outer

/-- Reading stops inside a value: all containers around it stay open. -/
def abandon (value : Node) : List Frame → Node
  | [] => value
  | .item before :: outer => abandon (.array (value :: before).reverse false) outer
  | .member before key :: outer => abandon (.object ((key, value) :: before).reverse false) outer

/-- The first token of a value. -/
def start (outer : List Frame) : Token → Reader
  | .null => settle .null outer
  | .bool value => settle (.bool value) outer
  | .number numeral => settle (.number numeral) outer
  | .string text => settle (.string text) outer
  | .openBracket => .itemOrEnd outer
  | .openBrace => .keyOrEnd outer
  | _ => .failed (abandon .fault outer)

def step : Reader → Token → Reader
  | .valueDue outer, token => start outer token
  | .itemOrEnd outer, .closeBracket => settle (.array [] true) outer
  | .itemOrEnd outer, token => start (.item [] :: outer) token
  | .afterItem before outer, .comma => .valueDue (.item before :: outer)
  | .afterItem before outer, .closeBracket => settle (.array before.reverse true) outer
  | .afterItem before outer, _ => .failed (abandon (.array before.reverse false) outer)
  | .keyOrEnd outer, .closeBrace => settle (.object [] true) outer
  | .keyOrEnd outer, .string key => .colonDue [] key outer
  | .keyOrEnd outer, _ => .failed (abandon (.object [] false) outer)
  | .keyDue before outer, .string key => .colonDue before key outer
  | .keyDue before outer, _ => .failed (abandon (.object before.reverse false) outer)
  | .colonDue before key outer, .colon => .valueDue (.member before key :: outer)
  | .colonDue before key outer, _ => .failed (abandon .fault (.member before key :: outer))
  | .afterMember before outer, .comma => .keyDue before outer
  | .afterMember before outer, .closeBrace => settle (.object before.reverse true) outer
  | .afterMember before outer, _ => .failed (abandon (.object before.reverse false) outer)
  | .done root, _ => .excess root
  | .excess root, _ => .excess root
  | .failed root, _ => .failed root

/-- The root of what was read when the tokens end, and whether the text is that value and no more. -/
def finish : Reader → Node × Bool
  | .valueDue outer => (abandon .fault outer, false)
  | .itemOrEnd outer => (abandon (.array [] false) outer, false)
  | .afterItem before outer => (abandon (.array before.reverse false) outer, false)
  | .keyOrEnd outer => (abandon (.object [] false) outer, false)
  | .keyDue before outer => (abandon (.object before.reverse false) outer, false)
  | .colonDue before key outer => (abandon .fault (.member before key :: outer), false)
  | .afterMember before outer => (abandon (.object before.reverse false) outer, false)
  | .done root => (root, true)
  | .excess root => (root, false)
  | .failed root => (root, false)

end Reader

/-- The root value of a text, and whether the text is that value and no more. -/
def Node.read (text : String) : Node × Bool :=
  ((Token.scan text.toList).foldl Reader.step (.valueDue [])).finish

end FormEditor.Json
