import SqlInsert.Tree.Function
/-!
# Kinds of nodes

Every node of a statement tree has a kind. The kinds that the recognition of a statement tells
apart are listed here in the families that share a rule: an operator with two operands, an operator
with one, a function call, a cast, a text constant with a prefix. All others keep their name only; a
function without a rule of its own does so within the family of calls.
-/

namespace SqlInsert

/-- The operators with two operands. -/
inductive BinaryOperator
  | add | subtract | multiply | divide | modulo | integerDivide | power
  | conjunction | disjunction | exclusive
  | equal | notEqual | nullSafeEqual | nullSafeNotEqual | greater | greaterEqual | less | lessEqual
  | identity | similarity | caselessSimilarity | similarTo | glob | escape
  | patternMatch | caselessPatternMatch | concatenation | collation | member
  | bitAnd | bitOr | bitXor | shiftLeft | shiftRight
  | assignment | namedArgument
  | jsonExtract | jsonExtractScalar | pathExtract | pathExtractScalar | pathDelete
  | hasKey | hasAllKeys | hasAnyKey | containsAll | sharesElements
  | overlap | distance | adjacent | extendsLeft | extendsRight
deriving DecidableEq, Repr

/-- All operators with two operands. -/
def BinaryOperator.all : List BinaryOperator :=
  [.add, .subtract, .multiply, .divide, .modulo, .integerDivide, .power, .conjunction, .disjunction,
    .exclusive, .equal, .notEqual, .nullSafeEqual, .nullSafeNotEqual, .greater, .greaterEqual, .less,
    .lessEqual, .identity, .similarity, .caselessSimilarity, .similarTo, .glob, .escape,
    .patternMatch, .caselessPatternMatch, .concatenation, .collation, .member, .bitAnd, .bitOr,
    .bitXor, .shiftLeft, .shiftRight, .assignment, .namedArgument, .jsonExtract, .jsonExtractScalar,
    .pathExtract, .pathExtractScalar, .pathDelete, .hasKey, .hasAllKeys, .hasAnyKey, .containsAll,
    .sharesElements, .overlap, .distance, .adjacent, .extendsLeft, .extendsRight]

/-- The operators with one operand; parentheses count as one. -/
inductive UnaryOperator
  | negation | minus | parentheses | bitNot
deriving DecidableEq, Repr

/-- All operators with one operand. -/
def UnaryOperator.all : List UnaryOperator := [.negation, .minus, .parentheses, .bitNot]

/-- The functions with a rule of their own, and calls of any other. -/
inductive Callee
  /-- A function that is not known. -/
  | anonymous
  | array | caseOf | concat | existence | ifThen | length | max | min
  | currentDate | currentTimestamp | dateAdd | dateSub | stampDifference | truncatedStamp
  | timeText | textDate | textTime | epochTime | extract
  | substring | trim | position | pad | chr | overlay | lowerHex | digest
  | groupConcat | jsonObject | parsedJson
  /-- A known function whose text follows the common rule. -/
  | known (kind : String)
deriving DecidableEq, Repr

/-- The functions with a rule of their own. -/
def Callee.special : List Callee :=
  [.anonymous, .array, .caseOf, .concat, .existence, .ifThen, .length, .max, .min, .currentDate,
    .currentTimestamp, .dateAdd, .dateSub, .stampDifference, .truncatedStamp, .timeText, .textDate,
    .textTime, .epochTime, .extract, .substring, .trim, .position, .pad, .chr, .overlay, .lowerHex,
    .digest, .groupConcat, .jsonObject, .parsedJson]

/-- The text constants that carry a prefix. -/
inductive TextPrefix
  | national | byte | unicode | raw
deriving DecidableEq, Repr

/-- All prefixes of text constants. -/
def TextPrefix.all : List TextPrefix := [.national, .byte, .unicode, .raw]

/-- The number constants written as digits between quotes. -/
inductive DigitPrefix
  | hex | bit
deriving DecidableEq, Repr

/-- All number constants between quotes. -/
def DigitPrefix.all : List DigitPrefix := [.hex, .bit]

/-- The kind of a node. -/
inductive Kind
  | binary (operator : BinaryOperator)
  | unary (operator : UnaryOperator)
  | call (callee : Callee)
  /-- A cast; a tolerant one yields nothing where it fails. -/
  | cast (tolerant : Bool)
  | prefixedText (form : TextPrefix)
  | prefixedDigits (form : DigitPrefix)
  | literal | null | boolean | star
  | placeholder | parameter | sessionParameter | introducer
  | column | identifier | variable | interval | subquery
  | dataType | dataTypeParameter
  | aliased | atTimeZone | between | bracket | distinct | membership | ordered
  | select | table | tableAlias | schema | tuple | values | insert | onConflict
  | other (name : String)
deriving DecidableEq, Repr

/-- The name of a binary operator's kind. -/
def BinaryOperator.name : BinaryOperator → String
  | .add => "Add"
  | .subtract => "Sub"
  | .multiply => "Mul"
  | .divide => "Div"
  | .modulo => "Mod"
  | .integerDivide => "IntDiv"
  | .power => "Pow"
  | .conjunction => "And"
  | .disjunction => "Or"
  | .exclusive => "Xor"
  | .equal => "EQ"
  | .notEqual => "NEQ"
  | .nullSafeEqual => "NullSafeEQ"
  | .nullSafeNotEqual => "NullSafeNEQ"
  | .greater => "GT"
  | .greaterEqual => "GTE"
  | .less => "LT"
  | .lessEqual => "LTE"
  | .identity => "Is"
  | .similarity => "Like"
  | .caselessSimilarity => "ILike"
  | .similarTo => "SimilarTo"
  | .glob => "Glob"
  | .escape => "Escape"
  | .patternMatch => "RegexpLike"
  | .caselessPatternMatch => "RegexpILike"
  | .concatenation => "DPipe"
  | .collation => "Collate"
  | .member => "Dot"
  | .bitAnd => "BitwiseAnd"
  | .bitOr => "BitwiseOr"
  | .bitXor => "BitwiseXor"
  | .shiftLeft => "BitwiseLeftShift"
  | .shiftRight => "BitwiseRightShift"
  | .assignment => "PropertyEQ"
  | .namedArgument => "Kwarg"
  | .jsonExtract => "JSONExtract"
  | .jsonExtractScalar => "JSONExtractScalar"
  | .pathExtract => "JSONBExtract"
  | .pathExtractScalar => "JSONBExtractScalar"
  | .pathDelete => "JSONBDeleteAtPath"
  | .hasKey => "JSONBContains"
  | .hasAllKeys => "JSONBContainsAllTopKeys"
  | .hasAnyKey => "JSONBContainsAnyTopKeys"
  | .containsAll => "ArrayContainsAll"
  | .sharesElements => "ArrayOverlaps"
  | .overlap => "Overlaps"
  | .distance => "Distance"
  | .adjacent => "Adjacent"
  | .extendsLeft => "ExtendsLeft"
  | .extendsRight => "ExtendsRight"

/-- The name of a unary operator's kind. -/
def UnaryOperator.name : UnaryOperator → String
  | .negation => "Not"
  | .minus => "Neg"
  | .parentheses => "Paren"
  | .bitNot => "BitwiseNot"

/-- The name of a call's kind. -/
def Callee.name : Callee → String
  | .anonymous => "Anonymous"
  | .array => "Array"
  | .caseOf => "Case"
  | .concat => "Concat"
  | .existence => "Exists"
  | .ifThen => "If"
  | .length => "Length"
  | .max => "Max"
  | .min => "Min"
  | .currentDate => "CurrentDate"
  | .currentTimestamp => "CurrentTimestamp"
  | .dateAdd => "DateAdd"
  | .dateSub => "DateSub"
  | .stampDifference => "TimestampDiff"
  | .truncatedStamp => "TimestampTrunc"
  | .timeText => "TimeToStr"
  | .textDate => "StrToDate"
  | .textTime => "StrToTime"
  | .epochTime => "UnixToTime"
  | .extract => "Extract"
  | .substring => "Substring"
  | .trim => "Trim"
  | .position => "StrPosition"
  | .pad => "Pad"
  | .chr => "Chr"
  | .overlay => "Overlay"
  | .lowerHex => "LowerHex"
  | .digest => "SHA2"
  | .groupConcat => "GroupConcat"
  | .jsonObject => "JSONObject"
  | .parsedJson => "ParseJSON"
  | .known kind => kind

/-- The name of a prefixed text's kind. -/
def TextPrefix.name : TextPrefix → String
  | .national => "National"
  | .byte => "ByteString"
  | .unicode => "UnicodeString"
  | .raw => "RawString"

/-- The name of the kind of digits between quotes. -/
def DigitPrefix.name : DigitPrefix → String
  | .hex => "HexString"
  | .bit => "BitString"

namespace Kind

/-- The name of a kind. -/
def name : Kind → String
  | .binary operator => operator.name
  | .unary operator => operator.name
  | .call callee => callee.name
  | .cast false => "Cast"
  | .cast true => "TryCast"
  | .prefixedText form => form.name
  | .prefixedDigits form => form.name
  | .literal => "Literal"
  | .null => "Null"
  | .boolean => "Boolean"
  | .star => "Star"
  | .placeholder => "Placeholder"
  | .parameter => "Parameter"
  | .sessionParameter => "SessionParameter"
  | .introducer => "Introducer"
  | .column => "Column"
  | .identifier => "Identifier"
  | .variable => "Var"
  | .interval => "Interval"
  | .subquery => "Subquery"
  | .dataType => "DataType"
  | .dataTypeParameter => "DataTypeParam"
  | .aliased => "Alias"
  | .atTimeZone => "AtTimeZone"
  | .between => "Between"
  | .bracket => "Bracket"
  | .distinct => "Distinct"
  | .membership => "In"
  | .ordered => "Ordered"
  | .select => "Select"
  | .table => "Table"
  | .tableAlias => "TableAlias"
  | .schema => "Schema"
  | .tuple => "Tuple"
  | .values => "Values"
  | .insert => "Insert"
  | .onConflict => "OnConflict"
  | .other name => name

/-- The kinds that make no family. -/
def single : List Kind :=
  [.cast false, .cast true, .literal, .null, .boolean, .star, .placeholder, .parameter,
    .sessionParameter, .introducer, .column, .identifier, .variable, .interval, .subquery, .dataType,
    .dataTypeParameter, .aliased, .atTimeZone, .between, .bracket, .distinct, .membership, .ordered,
    .select, .table, .tableAlias, .schema, .tuple, .values, .insert, .onConflict]

/-- The kinds of the families. -/
def families : List (List Kind) :=
  [BinaryOperator.all.map .binary, UnaryOperator.all.map .unary, Callee.special.map .call,
    TextPrefix.all.map .prefixedText, DigitPrefix.all.map .prefixedDigits]

/-- The kinds that have a name of their own. -/
def named : List Kind := families.flatten.append single

/-- The kind that a name stands for. -/
def ofName (name : String) : Kind :=
  match named.find? (·.name == name) with
  | some kind => kind
  | none => if (FunctionForm.ofKind? name).isSome then .call (.known name) else .other name

/-- Whether the grammar allows a node of the kind as a value that no constant stands for. -/
def isExpression : Kind → Bool
  | .binary _ | .unary _ | .call _ | .cast _ => true
  | .column | .subquery | .variable | .interval | .parameter | .sessionParameter
  | .introducer => true
  | _ => false

/-- Whether a node of the kind is a plain reference by name. -/
def isName : Kind → Bool
  | .identifier | .column => true
  | _ => false

end Kind

end SqlInsert
