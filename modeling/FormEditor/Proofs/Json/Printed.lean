import FormEditor.Json.Shape
import FormEditor.Proofs.Json.Scan

/-! What a printed value is read back as. The reader takes the tokens of a value for one step: it comes to
the place where the node of that value is complete, with the same containers open around it. -/

namespace FormEditor.Json

mutual

/-- The node that a text of a value holds. -/
def toNode : Json → Node
  | .null => .null
  | .bool value => .bool value
  | .number value => .number (Numeral.ofNumber value)
  | .string text => .string (some text)
  | .array items => .array (itemNodes items) true
  | .object members => .object (memberNodes members) true

def itemNodes : List Json → List Node
  | [] => []
  | item :: items => toNode item :: itemNodes items

def memberNodes : List (String × Json) → List (Option String × Node)
  | [] => []
  | (name, value) :: members => (some name, toNode value) :: memberNodes members

end

mutual

theorem intact_toNode (value : Json) : value.toNode.intact := by
  match value with
  | .null | .bool _ | .number _ | .string _ => rfl
  | .array items => exact intactItems_itemNodes items
  | .object members => exact intactMembers_memberNodes members

theorem intactItems_itemNodes (items : List Json) : Node.intactItems (itemNodes items) := by
  match items with
  | [] => rfl
  | item :: items => exact Bool.and_eq_true_iff.mpr ⟨intact_toNode item, intactItems_itemNodes items⟩

theorem intactMembers_memberNodes (members : List (String × Json)) :
    Node.intactMembers (memberNodes members) := by
  match members with
  | [] => rfl
  | (_, value) :: members =>
      exact Bool.and_eq_true_iff.mpr ⟨intact_toNode value, intactMembers_memberNodes members⟩

end

/-! ### Reading the tokens of a value -/

/-- A value may be the first item of an array, since none starts with the end of one. -/
theorem foldl_itemOrEnd (value : Json) (outer : List Frame) (rest : List Token) :
    (value.tokens ++ rest).foldl Reader.step (.itemOrEnd outer) =
      (value.tokens ++ rest).foldl Reader.step (.valueDue (.item [] :: outer)) := by
  match value with
  | .null | .bool _ | .number _ | .string _ => rfl
  | .array [] | .array (_ :: _) => rfl
  | .object [] | .object (_ :: _) => rfl

mutual

/-- **The tokens of a value are read as its node**, whatever containers are open around it. -/
theorem foldl_tokens (value : Json) (outer : List Frame) (rest : List Token) :
    (value.tokens ++ rest).foldl Reader.step (.valueDue outer) =
      rest.foldl Reader.step (Reader.settle value.toNode outer) := by
  match value with
  | .null | .bool _ | .number _ | .string _ => rfl
  | .array [] => rfl
  | .array (item :: items) =>
      have hopen : Reader.step (.valueDue outer) .openBracket = .itemOrEnd outer := rfl
      rw [tokens, List.cons_append, List.foldl_cons, hopen, List.append_assoc, foldl_itemOrEnd,
        foldl_tokens item]
      exact foldl_itemTokens items [item.toNode] outer rest
  | .object [] => rfl
  | .object ((name, value) :: members) =>
      simp only [tokens, List.cons_append, List.append_assoc]
      exact (foldl_tokens value (.member [] (some name) :: outer) _).trans
        (foldl_memberTokens members [(some name, value.toNode)] outer rest)

theorem foldl_itemTokens (items : List Json) (before : List Node) (outer : List Frame)
    (rest : List Token) :
    (itemTokens items ++ rest).foldl Reader.step (.afterItem before outer) =
      rest.foldl Reader.step (Reader.settle (.array (before.reverse ++ itemNodes items) true) outer) := by
  match items with
  | [] =>
      rw [itemNodes, List.append_nil]
      rfl
  | item :: items =>
      simp only [itemTokens, List.cons_append, List.append_assoc]
      refine (foldl_tokens item (.item before :: outer) _).trans ?_
      refine (foldl_itemTokens items (item.toNode :: before) outer rest).trans ?_
      rw [List.reverse_cons, List.append_assoc, itemNodes]
      rfl

theorem foldl_memberTokens (members : List (String × Json)) (before : List (Option String × Node))
    (outer : List Frame) (rest : List Token) :
    (memberTokens members ++ rest).foldl Reader.step (.afterMember before outer) =
      rest.foldl Reader.step (Reader.settle (.object (before.reverse ++ memberNodes members) true) outer) := by
  match members with
  | [] =>
      rw [memberNodes, List.append_nil]
      rfl
  | (name, value) :: members =>
      simp only [memberTokens, List.cons_append, List.append_assoc]
      refine (foldl_tokens value (.member before (some name) :: outer) _).trans ?_
      refine (foldl_memberTokens members ((some name, value.toNode) :: before) outer rest).trans ?_
      rw [List.reverse_cons, List.append_assoc, memberNodes]
      rfl

end

/-- **A printed value is read back as its node**, and nothing follows it. -/
theorem read_print {layout : Layout} (hlayout : layout.IsBlank) {value : Json}
    (hintegral : value.isIntegral) :
    Node.read (String.ofList (value.print layout 0)) = (value.toNode, true) := by
  have hscan : Token.scan (value.print layout 0) = value.tokens := by
    have hprint := Token.scan_print hlayout 0 value hintegral Token.endsNumeral_nil
    rw [List.append_nil] at hprint
    rw [Token.scan, hprint]
    exact List.append_nil _
  have hread := foldl_tokens value [] []
  rw [List.append_nil] at hread
  rw [Node.read, String.toList_ofList, hscan, hread]
  rfl

/-- So a decoder reads from the text of a value what it reads from its node, whatever the layout. -/
theorem decodeText_print {layout : Layout} (hlayout : layout.IsBlank) {α : Type} (decoder : Decoder α)
    {value : Json} (hintegral : value.isIntegral) :
    decodeText decoder (String.ofList (value.print layout 0)) = decoder value.toNode := by
  rw [decodeText, read_print hlayout hintegral]
  cases hdecoded : decoder value.toNode with
  | error fault => simp only [hdecoded, bind, Except.bind]
  | ok read => simp only [hdecoded, bind, Except.bind]; rfl

theorem decodeText_pretty {α : Type} (decoder : Decoder α) {value : Json} (hintegral : value.isIntegral) :
    decodeText decoder value.pretty = decoder value.toNode :=
  decodeText_print Layout.isBlank_indented decoder hintegral

theorem decodeText_compact {α : Type} (decoder : Decoder α) {value : Json} (hintegral : value.isIntegral) :
    decodeText decoder value.compact = decoder value.toNode :=
  decodeText_print Layout.isBlank_compact decoder hintegral

end FormEditor.Json
