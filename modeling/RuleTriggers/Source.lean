import RuleTriggers.Source.Words

/-!
Sources: the piece of the game, or the moment of play, that a trigger belongs to. A source is
written as one token; numbered pieces write their number after the tag of their series, and are
read with any leading zeros. Only numbers that the series has are read.
-/

namespace RuleTriggers

/-- Where a trigger comes from. -/
inductive Source
  | moment (word : Moment)
  | numbered (series : Series) (index : UInt8)
  | tech (tile : TechTile)
  | advancedTech (tile : AdvancedTechTile)
  | research (field : ResearchField)
  | boardAction (action : BoardAction)
  | faction (faction : Faction)
  deriving DecidableEq

namespace Source

/-- The token of a source. -/
def text : Source → Text
  | moment word => Vocabulary.token word
  | numbered series index => series.tag ++ Text.decimal index.toNat
  | tech tile => Vocabulary.token tile
  | advancedTech tile => Vocabulary.token tile
  | research field => Vocabulary.token field
  | boardAction action => Vocabulary.token action
  | faction f => Vocabulary.token f

/-- What listings call a source: its kind, and within brackets which one of the kind. -/
def name : Source → String
  | moment word => Vocabulary.name word
  | numbered series index =>
    series.name ++ "(" ++ String.ofList (Text.decimal index.toNat) ++ ")"
  | tech tile => "Tech(" ++ Vocabulary.name tile ++ ")"
  | advancedTech tile => "AdvTech(" ++ Vocabulary.name tile ++ ")"
  | research field => "Research(" ++ Vocabulary.name field ++ ")"
  | boardAction action => "BoardAction(" ++ Vocabulary.name action ++ ")"
  | faction f => "Faction(" ++ Vocabulary.name f ++ ")"

/-- Numbered sources may carry any number; a valid one carries a number of its series. -/
def Valid : Source → Prop
  | numbered series index => series.Has index
  | _ => True

instance (source : Source) : Decidable source.Valid :=
  match source with
  | numbered series index => inferInstanceAs (Decidable (series.Has index))
  | moment _ | tech _ | advancedTech _ | research _ | boardAction _ | faction _ =>
    inferInstanceAs (Decidable True)

/-- The numbered source, if the series has the number; messages call the piece by `subject`. -/
def checked (subject : String) (series : Series) (index : UInt8) :
    Except VocabularyError Source :=
  if series.Has index then .ok (numbered series index) else .error (.outOfRange subject index)

/-- The piece with the given number, called by the tag of its series if there is none. -/
def ofIndex (series : Series) (index : UInt8) : Except VocabularyError Source :=
  checked (String.ofList series.tag) series index

/-- The number after the tag: digits alone, at least one, and below 256. -/
def readIndex? (tail : Text) : Option UInt8 :=
  if tail ≠ [] ∧ tail.all Char.isDigit ∧ Text.value tail < 256 then
    some (UInt8.ofNat (Text.value tail))
  else none

/-- The numbered source whose text is the tag followed by `tail`. -/
def ofTail (series : Series) (tail : Text) : Except VocabularyError Source :=
  match readIndex? tail with
  | some index => checked series.subject series index
  | none => .error (.unknown series.subject tail)

/-- The series whose tag the text begins with, and the text after the tag. -/
def splitTag? (t : Text) : Option (Series × Text) :=
  Series.all.findSome? fun series => (series.tag.isPrefixOf? t).map (series, ·)

/-- The source whose token is a fixed word. -/
def ofWord? (t : Text) : Option Source :=
  (Vocabulary.find? t).map tech <|> (Vocabulary.find? t).map advancedTech <|>
    (Vocabulary.find? t).map research <|> (Vocabulary.find? t).map boardAction <|>
      (Vocabulary.find? t).map faction

/-- The source with the given token. A moment of play is looked for first, then a tag, then the
other words; a text that begins with a tag is never read as a word. -/
def parse (t : Text) : Except VocabularyError Source :=
  match Vocabulary.find? t with
  | some word => .ok (moment word)
  | none =>
    match splitTag? t with
    | some (series, tail) => ofTail series tail
    | none =>
      match ofWord? t with
      | some source => .ok source
      | none => .error (.unknown "event source" t)

end Source

end RuleTriggers
