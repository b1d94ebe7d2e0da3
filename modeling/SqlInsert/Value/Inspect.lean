import SqlInsert.Value.Basic
/-!
# Values in full

The full form of a value names its sort and all that it holds, so that values that look alike in the
short form can be told apart.
-/

namespace SqlInsert.Inspect

/-- Numbers between commas. -/
def commaNumbers (numbers : List Nat) : String :=
  ", ".intercalate (numbers.map fun (n : Nat) => Number.integerText n)

/-- The fields of a clock reading: seconds and microseconds only as far as they are needed. -/
def clockNumbers (clock : Calendar.Clock) : List Nat :=
  [clock.hour, clock.minute] ++
    (if clock.microsecond ≠ 0 then [clock.second, clock.microsecond]
     else if clock.second ≠ 0 then [clock.second] else [])

/-- A distance in time as whole days, and seconds and microseconds that are not negative; parts that
are zero are left out. -/
def durationText (microseconds : Int) : String :=
  let days := microseconds.fdiv Calendar.dayMicroseconds
  let rest := microseconds.fmod Calendar.dayMicroseconds
  let named := [("days", days), ("seconds", rest.fdiv 1000000), ("microseconds", rest.fmod 1000000)]
  let shown := (named.filter fun (_, amount) => amount != 0).map fun (name, amount) =>
    name ++ "=" ++ Number.integerText amount
  "datetime.timedelta(" ++ (if shown.isEmpty then "0" else ", ".intercalate shown) ++ ")"

/-- A zone behind the fields of a time. -/
def zoneText : Option Calendar.Offset → String
  | none => ""
  | some offset =>
    ", tzinfo=" ++
      (if offset.microseconds = 0 then "datetime.timezone.utc"
       else "datetime.timezone(" ++ durationText offset.microseconds ++ ")")

/-- The full form of a constant. -/
def constant : Constant → Except Number.WritingError String
  | .text value => .ok (Text.quoted value)
  | .int value => Number.writeInteger value
  | .flag value => .ok (if value then "True" else "False")
  | .decimal value => .ok ("Decimal('" ++ value.text ++ "')")
  | .date value =>
    .ok ("datetime.date(" ++ commaNumbers [value.year, value.month, value.day] ++ ")")
  | .time value =>
    .ok ("datetime.time(" ++ commaNumbers (clockNumbers value.clock) ++ zoneText value.offset ++ ")")
  | .dateTime value =>
    .ok ("datetime.datetime(" ++
      commaNumbers ([value.date.year, value.date.month, value.date.day] ++ clockNumbers value.clock) ++
      zoneText value.offset ++ ")")

end SqlInsert.Inspect

namespace SqlInsert

/-- The full form of a value. -/
def Value.inspect : Value → Except Number.WritingError String
  | .literal value => (Inspect.constant value).map fun shown => "Literal(value=" ++ shown ++ ")"
  | .null => .ok "ExplicitNull"
  | .placeholder index name =>
    (Number.writeInteger index).map fun shown =>
      "Placeholder(index=" ++ shown ++ ", name=" ++ (name.map Text.quoted).getD "None" ++ ")"
  | .expression text kindName =>
    .ok ("OpaqueExpression(text=" ++ Text.quoted text ++ ", node_type=" ++ Text.quoted kindName ++ ")")

end SqlInsert
