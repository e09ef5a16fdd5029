import GrammarFuzz.Pattern.Escape
import GrammarFuzz.Text.Numeral

/-!
# Reading a pattern

The reader of regular expressions.  Some patterns are simplified as they are read, and a text
drawn from a pattern shows it: a set loses repeated members, a set of one
character becomes that character, a plain group dissolves into its surroundings,
what all alternatives start with moves out in front of them, and alternatives
of one character or set each become one set.
-/

namespace GrammarFuzz.Pattern

/-- A list without the later copies of its members. -/
def dedup {α : Type} [BEq α] (items : List α) : List α :=
  items.foldl (fun kept item => if kept.contains item then kept else kept ++ [item]) []

/-- The member of a set that an escape stands for. -/
def SetEscape.member : SetEscape → SetMember
  | .point value => .point value
  | .category kind negated => .category kind negated

/-- The flag of a letter. -/
def flagOf? (c : Char) : Option Flag :=
  match c with
  | 'i' => some .ignoreCase
  | 'L' => some .localeAware
  | 'm' => some .multiline
  | 's' => some .dotAll
  | 'x' => some .verbose
  | 'a' => some .ascii
  | 't' => some .template
  | 'u' => some .unicode
  | _ => none

/-- The flag of a token. -/
def Token.flag? : Token → Option Flag
  | .plain c => flagOf? c
  | .escape _ => none

/-- Whether a token is a letter. -/
def Token.isLetter : Token → Bool
  | .plain c => Text.isLetter c
  | .escape _ => false

/-- The item that a set of members is read as. -/
def setItem (negated : Bool) (members : List SetMember) : Item :=
  match dedup members with
  | [.point value] => if negated then .notPoint value else .point value
  | members => .oneOf negated members

/-- The members of a set that an item of a branch can be replaced by. -/
def asSet? : Item → Option (List SetMember)
  | .point value => some [.point value]
  | .oneOf false members => some members
  | _ => none

/-- The members of one set for alternatives that are a single character or set each. -/
def mergedSet? (alternatives : List (List Item)) : Option (List SetMember) :=
  alternatives.foldr (fun alternative members =>
    match alternative with
    | [item] => do return (← asSet? item) ++ (← members)
    | _ => none) (some [])

/-- Moves what all alternatives start with out in front, one item at a time.  `fuel` bounds the
number of items; the result holds them and what is left of the alternatives. -/
def commonStart : (fuel : Nat) → List (List Item) → List Item × List (List Item)
  | 0, alternatives => ([], alternatives)
  | fuel + 1, alternatives =>
    match alternatives with
    | (first :: _) :: others =>
      let sharesFirst (alternative : List Item) : Bool :=
        match alternative with
        | item :: _ => item.same first
        | [] => false
      if others.all sharesFirst then
        let (start, rest) := commonStart fuel (alternatives.map List.tail)
        (first :: start, rest)
      else ([], alternatives)
    | _ => ([], alternatives)

/-- The items of two or more alternatives. -/
def joinAlternatives (alternatives : List (List Item)) : List Item :=
  let (start, rest) := commonStart ((alternatives.map List.length).foldl max 0 + 1) alternatives
  match mergedSet? rest with
  | some members => start ++ [.oneOf false (dedup members)]
  | none => start ++ [.branch rest]

/-- Dissolves the plain groups of a sequence. -/
def dissolve (items : List Item) : List Item :=
  items.flatMap fun item =>
    match item with
    | .group none [] [] body => body
    | item => [item]

/-- What a repetition repeats: the last item, or the items of a plain group. -/
def repeatedBody : Item → List Item
  | .group none [] [] body => body
  | item => [item]

namespace Parse

/-- Whether white space of a pattern with the verbose flag is skipped. -/
def isVerboseSpace (c : Char) : Bool :=
  c == ' ' || c == '\t' || c == '\n' || c == '\r' || c == '\x0b' || c == '\x0c'

/-- Takes tokens up to the end of a line; `fuel` bounds their number. -/
def skipLine : (fuel : Nat) → Parse Unit
  | 0 => return
  | fuel + 1 => do
    match ← take with
    | none => return
    | some token => if token = .plain '\n' then return else skipLine fuel

/-- Takes a comment up to its closing parenthesis; `start` is where its group starts. -/
def skipComment (start : Nat) : (fuel : Nat) → Parse Unit
  | 0 => failAt .unterminatedComment start
  | fuel + 1 => do
    match ← take with
    | none => failAt .unterminatedComment start
    | some token => if token = .plain ')' then return else skipComment start fuel

/-- A bound on the number of tokens that are left. -/
def tokensLeft : Parse Nat := return (← get).rest.length + 2

/-- What a token of a set means on its own. -/
def setPoint (token : Token) : Parse SetEscape := do
  match token with
  | .plain c => return .point c.toNat
  | .escape c => setEscape c

/-- The members of a set up to its closing bracket; `start` is where the set starts and `members`
are those read so far.  `fuel` bounds the number of tokens. -/
def setMembers (start : Nat) : (fuel : Nat) → (members : List SetMember) → Parse (List SetMember)
  | 0, _ => failAt .unterminatedSet start
  | fuel + 1, members => do
    match ← take with
    | none => failAt .unterminatedSet start
    | some token =>
      if token = .plain ']' ∧ members ≠ [] then return members
      else
        let low ← setPoint token
        if ← accept '-' then
          match ← take with
          | none => failAt .unterminatedSet start
          | some last =>
            -- a minus right before the closing bracket stands for itself
            if last = .plain ']' then return members ++ [low.member, .point 0x2d]
            else
              let high ← setPoint last
              let wrong : Parse (List SetMember) :=
                failBefore (token.length + 1 + last.length)
                  (.characterRange token.text last.text)
              match low, high with
              | .point a, .point b =>
                if b < a then wrong else setMembers start fuel (members ++ [.range a b])
              | _, _ => wrong
        else setMembers start fuel (members ++ [low.member])

/-- A set, after its opening bracket has been taken. -/
def characterSet : Parse Item := do
  let start := (← position) - 1
  let negated ← accept '^'
  let members ← setMembers start (← tokensLeft) []
  return setItem negated members

/-- A repetition count; too large a count fails. -/
def repeatCount (digits : List Char) : Parse Nat := do
  if let some limit := Interpreter.digitsOver? (← get).interpreter.digitLimit digits.length then
    throw (.tooManyDigits limit digits.length)
  let count := numeral 10 digits
  if unbounded ≤ count then throw .repetitionTooLarge
  return count

/-- The bounds of a repetition in braces, after the opening brace has been taken; `none` if the
braces are none of a repetition. -/
def bounds : Parse (Option (Nat × Option Nat)) := do
  let here ← position
  let saved ← get
  if saved.next = some (.plain '\x7d') then return none
  let fuel ← tokensLeft
  let low ← takeWhile Char.isDigit fuel
  let comma ← accept ','
  let high ← if comma then takeWhile Char.isDigit fuel else pure low
  -- braces that hold no bounds are read again as characters
  if !(← accept '\x7d') then
    set saved
    return none
  let least ← if low.isEmpty then pure 0 else repeatCount low
  if high.isEmpty then return some (least, none)
  let most ← repeatCount high
  if most < least then failAt .repeatBounds here
  return some (least, some most)

/-- Repeats the last of the items; `place` is where the repetition sign stands. -/
def repeatLast (place : Nat) (items : List Item) (least : Nat) (most : Option Nat) :
    Parse (List Item) := do
  match items.getLast? with
  | none => failAt .nothingToRepeat place
  | some (.anchor _) => failAt .nothingToRepeat place
  | some (.repetition _ _ _ _) => failAt .multipleRepeat place
  | some item =>
    let body := repeatedBody item
    let greed ←
      if ← accept '?' then pure Greed.reluctant
      else if ← accept '+' then pure Greed.possessive
      else pure Greed.greedy
    return items.dropLast ++ [.repetition greed least most body]

/-- Reads flags to be added, the first of which is `flag`, up to what ends them.  `fuel` bounds
their number. -/
def addedFlags : (fuel : Nat) → (flag : Flag) → (added : Flags) → Parse (Flags × Char)
  | 0, _, _ => fail .missingFlagEnd
  | fuel + 1, flag, added => do
    if flag = .localeAware then fail .localeFlag
    let added := added.add flag
    if flag.isClassFlag && added.any (fun other => other.isClassFlag && other ≠ flag) then
      fail .flagsIncompatible
    match ← take with
    | none => fail .missingFlagEnd
    | some token =>
      match token with
      | .plain ')' => return (added, ')')
      | .plain '-' => return (added, '-')
      | .plain ':' => return (added, ':')
      | token =>
        match token.flag? with
        | some flag => addedFlags fuel flag added
        | none =>
          failBefore token.length (if token.isLetter then .unknownFlag else .missingFlagEnd)

/-- Reads flags to be removed, the first of which is `flag`, up to a colon. -/
def removedFlags : (fuel : Nat) → (flag : Flag) → (removed : Flags) → Parse Flags
  | 0, _, _ => fail .missingColon
  | fuel + 1, flag, removed => do
    if flag.isClassFlag then fail .classFlagTurnedOff
    let removed := removed.add flag
    match ← take with
    | none => fail .missingColon
    | some token =>
      if token = .plain ':' then return removed
      else
        match token.flag? with
        | some flag => removedFlags fuel flag removed
        | none => failBefore token.length (if token.isLetter then .unknownFlag else .missingColon)

/-- Flags in parentheses, the first token of which is a flag or a minus.  Without a colon they
hold for the whole pattern and the result is `none`. -/
def groupFlags (first : Option Flag) : Parse (Option (Flags × Flags)) := do
  let fuel ← tokensLeft
  let (added, ending) ←
    match first with
    | some flag => addedFlags fuel flag []
    | none => pure ([], '-')
  if ending = ')' then
    modify fun scan => { scan with flags := added.foldl Flags.add scan.flags }
    return none
  if added.contains .template then failBefore 1 .flagTurnedOn
  let removed ←
    if ending = '-' then
      match ← take with
      | none => fail .missingFlag
      | some token =>
        match token.flag? with
        | some flag => removedFlags fuel flag []
        | none => failBefore token.length (if token.isLetter then .unknownFlag else .missingFlag)
    else pure []
  if removed.contains .template then failBefore 1 .flagTurnedOff
  if added.any removed.contains then failBefore 1 .flagOnAndOff
  return some (added, removed)

/-- A group name must be an identifier. -/
def checkName (name : String) : Parse Unit := do
  if Text.isIdentifier name.toList then return
  else failBefore (name.length + 1) (.groupNameCharacter name)

/-- A reference to a group by its name, up to the closing parenthesis. -/
def namedReference : Parse Item := do
  let name ← name ')' "group name"
  checkName name
  match (← get).names.find? (·.1 == name) with
  | none => failBefore (name.length + 1) (.unknownGroupName name)
  | some (_, number) =>
    if !(← isClosed number) then failBefore (name.length + 1) .openGroup
    checkLookBehind number
    return .reference number

/-- The greatest number of groups. -/
def maxGroups : Nat := 1073741823

/-- The group that a condition names, up to the closing parenthesis of the name. -/
def conditionGroup : Parse Nat := do
  let name ← name ')' "group name"
  let back := name.length + 1
  let number ←
    if Text.isIdentifier name.toList then
      match (← get).names.find? (·.1 == name) with
      | none => failBefore back (.unknownGroupName name)
      | some (_, number) => pure number
    else
      match Text.parseInt? (← get).interpreter.digitLimit name with
      | some (.ofNat 0) => failBefore back .groupNumber
      | some (.ofNat number) =>
        if maxGroups ≤ number then failBefore back (.groupReference number)
        if !(← get).conditions.any (·.1 == number) then
          let place := (← position) - back
          modify fun scan => { scan with conditions := scan.conditions ++ [(number, place)] }
        pure number
      | _ => failBefore back (.groupNameCharacter name)
  checkLookBehind number
  return number

/-- What the tokens after an opening parenthesis make of a group. -/
inductive Opening where
  /-- A group with a body, to be closed: its number if it captures, its flags, and whether it is
  atomic. -/
  | group (number : Option Nat) (added removed : Flags) (atomic : Bool)
  | look (behind negated : Bool)
  | conditional (number : Nat)
  /-- An item without a body. -/
  | item (item : Item)
  /-- A comment. -/
  | nothing
  /-- Flags for the whole pattern. -/
  | flags

/-- The tokens after a question mark that open a group; `start` is where the group starts. -/
def extension (start : Nat) : Parse Opening := do
  match ← take with
  | none => fail .endOfPattern
  | some token =>
    match token with
    | .plain 'P' =>
      if ← accept '<' then
        let name ← name '>' "group name"
        checkName name
        return .group (some (← openGroup (some name))) [] [] false
      else if ← accept '=' then
        return .item (← namedReference)
      else
        match ← take with
        | none => fail .endOfPattern
        | some token => failBefore (token.length + 2) (.unknownExtension ("P" ++ token.text))
    | .plain ':' => return .group none [] [] false
    | .plain '#' => do
      skipComment start (← tokensLeft)
      return .nothing
    | .plain '=' => return .look false false
    | .plain '!' => return .look false true
    | .plain '<' =>
      match ← take with
      | none => fail .endOfPattern
      | some (.plain '=') => return .look true false
      | some (.plain '!') => return .look true true
      | some token => failBefore (token.length + 2) (.unknownExtension ("<" ++ token.text))
    | .plain '(' => return .conditional (← conditionGroup)
    | .plain '>' => return .group none [] [] true
    | token =>
      if token = .plain '-' ∨ token.flag?.isSome then
        match ← groupFlags token.flag? with
        | none => return .flags
        | some (added, removed) => return .group none added removed false
      else failBefore (token.length + 1) (.unknownExtension token.text)

/-- What is left of parentheses when they have been read. -/
inductive Parenthesis where
  | item (item : Item)
  /-- A comment leaves nothing. -/
  | nothing
  /-- Flags for the whole pattern have been set. -/
  | flags

/-- Takes the closing parenthesis of a group that starts at `start`. -/
def closeParenthesis (start : Nat) : Parse Unit := do
  if !(← accept ')') then failAt .unterminatedGroup start

mutual

/-- Reads alternatives up to a closing parenthesis or the end.  `depth` bounds the nested calls;
`alternatives` are those read so far. -/
def alternatives :
    (depth : Nat) → (verbose nested : Bool) → (read : List (List Item)) → Parse (List Item)
  | 0, _, _, _ => fail .endOfPattern
  | depth + 1, verbose, nested, read => do
    let items ← sequence depth verbose (!nested && read.isEmpty) []
    let read := read ++ [items]
    if ← accept '|' then
      let flags := (← get).flags
      alternatives depth (if nested then verbose else flags.contains .verbose) nested read
    else
      match read with
      | [items] => return items
      | _ => return joinAlternatives read

/-- Reads items up to a bar, a closing parenthesis or the end.  `first` holds for the first
alternative of the whole pattern, `items` are those read so far. -/
def sequence :
    (depth : Nat) → (verbose first : Bool) → (items : List Item) → Parse (List Item)
  | 0, _, _, _ => fail .endOfPattern
  | depth + 1, verbose, first, items => do
    match (← get).next with
    | none => return dissolve items
    | some token =>
      if token = .plain '|' ∨ token = .plain ')' then return dissolve items
      discard take
      match token with
      | .escape c =>
        let item ← itemEscape c
        sequence depth verbose first (items ++ [item])
      | .plain c =>
        if verbose && isVerboseSpace c then sequence depth verbose first items
        else if verbose && c == '#' then
          skipLine (← tokensLeft)
          sequence depth verbose first items
        else
          match c with
          | '[' =>
            let item ← characterSet
            sequence depth verbose first (items ++ [item])
          | '?' => do
            let items ← repeatLast ((← position) - 1) items 0 (some 1)
            sequence depth verbose first items
          | '*' => do
            let items ← repeatLast ((← position) - 1) items 0 none
            sequence depth verbose first items
          | '+' => do
            let items ← repeatLast ((← position) - 1) items 1 none
            sequence depth verbose first items
          | '\x7b' => do
            let place := (← position) - 1
            match ← bounds with
            | none => sequence depth verbose first (items ++ [.point c.toNat])
            | some (least, most) =>
              let items ← repeatLast place items least most
              sequence depth verbose first items
          | '.' => sequence depth verbose first (items ++ [.any])
          | '^' => sequence depth verbose first (items ++ [.anchor .lineStart])
          | '$' => sequence depth verbose first (items ++ [.anchor .lineEnd])
          | '(' => do
            let start := (← position) - 1
            match ← parenthesis depth start verbose with
            | .item item => sequence depth verbose first (items ++ [item])
            | .nothing => sequence depth verbose first items
            | .flags =>
              if !first || !items.isEmpty then failAt .flagsNotAtStart start
              sequence depth ((← get).flags.contains .verbose) first items
          | c => sequence depth verbose first (items ++ [.point c.toNat])

/-- Reads what follows an opening parenthesis at `start`. -/
def parenthesis : (depth : Nat) → (start : Nat) → (verbose : Bool) → Parse Parenthesis
  | 0, _, _ => fail .endOfPattern
  | depth + 1, start, verbose => do
    let opening ←
      if ← accept '?' then extension start
      else pure (.group (some (← openGroup none)) [] [] false)
    match opening with
    | .nothing => return .nothing
    | .flags => return .flags
    | .item item => return .item item
    | .look behind negated =>
      let outer := (← get).lookBehind
      if behind && outer.isNone then
        let count ← groupCount
        modify ({ · with lookBehind := some count })
      let body ← alternatives depth verbose true []
      if behind && outer.isNone then modify ({ · with lookBehind := none })
      closeParenthesis start
      return .item (.look behind negated body)
    | .conditional number =>
      let yes ← sequence depth verbose false []
      if ← accept '|' then
        let no ← sequence depth verbose false []
        if (← get).next = some (.plain '|') then fail .conditionalBranches
        closeParenthesis start
        return .item (.conditional number yes (some no))
      else
        closeParenthesis start
        return .item (.conditional number yes none)
    | .group number added removed atomic =>
      let inner := (verbose || added.contains .verbose) && !removed.contains .verbose
      let body ← alternatives depth inner true []
      closeParenthesis start
      match number with
      | some number => closeGroup number body
      | none => pure ()
      return .item (if atomic then .atomic body else .group number added removed body)

end

end Parse

namespace Item

mutual

/-- The first fault that a parse tree still has: a look-behind without a fixed width, or a
repetition under the template flag. -/
def fault? (widths : Nat → Nat × Nat) (template : Bool) : Item → Option Fault
  | look behind _ body =>
    let (low, high) := sequenceWidth widths body
    if behind && low != high then some .lookBehindWidth
    else sequenceFault? widths template body
  | repetition greed _ _ body =>
    if template then
      some (.templateRepeat
        (match greed with
        | .greedy => "MAX_REPEAT"
        | .reluctant => "MIN_REPEAT"
        | .possessive => "POSSESSIVE_REPEAT"))
    else sequenceFault? widths template body
  | group _ _ _ body | atomic body => sequenceFault? widths template body
  | branch alternatives => branchFault? widths template alternatives
  | conditional _ yes no =>
    match sequenceFault? widths template yes with
    | some fault => some fault
    | none =>
      match no with
      | some no => sequenceFault? widths template no
      | none => none
  | _ => none

/-- The first fault of a sequence. -/
def sequenceFault? (widths : Nat → Nat × Nat) (template : Bool) : List Item → Option Fault
  | [] => none
  | item :: rest =>
    match fault? widths template item with
    | some fault => some fault
    | none => sequenceFault? widths template rest

/-- The first fault of the alternatives of a branch. -/
def branchFault? (widths : Nat → Nat × Nat) (template : Bool) :
    List (List Item) → Option Fault
  | [] => none
  | alternative :: rest =>
    match sequenceFault? widths template alternative with
    | some fault => some fault
    | none => branchFault? widths template rest

end

end Item

namespace Parse

/-- Reads the whole pattern. -/
def whole : Parse Tree := do
  load (← get).rest 0
  let items ← alternatives (3 * (← get).size + 4) false false []
  let scan ← get
  -- a clash of flags is found before anything that the text still holds
  if scan.flags.contains .ascii && scan.flags.contains .unicode then throw .classFlagsClash
  if scan.next.isSome then fail .unbalancedParenthesis
  match scan.conditions.find? fun (number, _) => scan.widths.length ≤ number with
  | some (number, place) => failAt (.groupReference number) place
  | none => pure ()
  match Item.sequenceFault? (Scan.groupWidth scan) (scan.flags.contains .template) items with
  | some fault => throw (.invalid fault none)
  | none => return ⟨items, scan.flags, scan.widths.map (·.getD (0, 0))⟩

end Parse

/-- Reads a pattern. -/
def parse (interpreter : Interpreter) (pattern : String) : Except ParseError Tree :=
  let characters := pattern.toList
  Prod.fst <$> Parse.whole.run
    { interpreter, size := characters.length, next := none, rest := characters, index := 0
      flags := [], widths := [none], names := [], lookBehind := none, conditions := [] }

end GrammarFuzz.Pattern
