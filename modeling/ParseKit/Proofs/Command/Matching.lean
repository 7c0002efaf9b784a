import Mathlib
import ParseKit.Command.Toolkit
import ParseKit.Proofs.Logging.Quiet
import ParseKit.Proofs.Text.Json

/-!
Primitive parsers on the command line. Main statement: the command either prints one line, an object in JSON whose two
members make up the input, or ends with status 1 and names the pattern and the whole input.
-/

namespace ParseKit

namespace Command

namespace Match

/-- How a parse error names a pattern. -/
def wanted (isPattern : Bool) (pattern : Text) : Text :=
  if isPattern then '/' :: (pattern ++ ['/']) else '\'' :: (pattern ++ ['\''])

def refusal (isPattern : Bool) (pattern input : Text) : Text :=
  "Parse error. Expected ".toList ++ wanted isPattern pattern ++ ". Instead found ".toList ++ input ++ ['.']

/-- A line that tells the parts of an input. -/
structure Tells (input line data rest : Text) : Prop where
  visible : ∀ c ∈ line, Json.IsVisible c
  object : Json.readObject line = some [("data".toList, data), ("rest".toList, rest)]
  whole : data ++ rest = input

def member (key value : Text) : Text := Json.quote key ++ ':' :: ' ' :: Json.quote value

theorem member_visible (key value : Text) : ∀ c ∈ member key value, Json.IsVisible c := by
  simp only [member, List.forall_mem_append, List.forall_mem_cons]
  exact ⟨Json.quote_visible key, by decide, by decide, Json.quote_visible value⟩

def splitLine (data rest : Text) : Text :=
  '\x7b' :: (member "data".toList data ++ ',' :: ' ' :: (member "rest".toList rest ++ ['\x7d']))

theorem objectLine_texts (data rest : Text) : objectLine ⟨.text data, .text rest⟩ = splitLine data rest ++ ['\n'] := by
  have line {first second : Text} (opens : first = '\x7b' :: (Json.quote "data".toList ++ [':', ' ']))
      (goesOn : second = ',' :: ' ' :: (Json.quote "rest".toList ++ [':', ' '])) :
      first ++ Json.quote data ++ second ++ Json.quote rest ++ ['\x7d', '\n'] = splitLine data rest ++ ['\n'] := by
    rw [opens, goesOn, splitLine, member, member]
    simp only [List.cons_append, List.append_assoc, List.nil_append]
  exact line (by cbv) (by cbv)

theorem splitLine_tells (data rest : Text) : Tells (data ++ rest) (splitLine data rest) data rest := by
  refine ⟨?_, ?_, rfl⟩
  · simp only [splitLine, List.forall_mem_append, List.forall_mem_cons]
    exact ⟨by decide, member_visible _ data, by decide, by decide, member_visible _ rest, by decide, by simp⟩
  · have object := Json.readObject_two "data".toList data "rest".toList rest
    simpa [splitLine, member] using object

section parsing

variable {characters : CharacterNames} {isPattern : Bool} {pattern input data rest wording : Text} {p : Parser} {q : Pattern}

/-- What is taken from the start of an input: a literal itself, and of a regular expression what it matches. -/
def Takes (characters : CharacterNames) (isPattern : Bool) (pattern input data : Text) : Prop :=
  if isPattern then ∃ q, Parser.compile characters (.text pattern) {} = .ok q ∧ (q.matchText input).map input.take = some data
  else data = pattern ∧ pattern <+: input

theorem parser_literal (characters : CharacterNames) (pattern : Text) :
    parser characters false pattern = .ok (Parser.literalOr (.text (wanted false pattern)) (.text pattern)) := by
  rw [parser, if_neg Bool.false_ne_true, Parser.literal_of_render rfl rfl]
  rfl

theorem parser_matching (compiled : Parser.compile characters (.text pattern) {} = .ok q) :
    parser characters true pattern = .ok (.matching q) := by
  rw [parser, if_pos rfl, compiled]

theorem compile_source {source : Source} {flags : Flags} (compiled : Parser.compile characters source flags = .ok q) :
    q.source = source := by
  rw [Parser.compile, Pattern.compile] at compiled
  cases given : Pattern.read characters source.isText source.characters flags with
  | error refusal =>
    rw [given] at compiled
    cases compiled
  | ok found =>
    rw [given] at compiled
    cases compiled
    rfl

theorem result_of_success (parsed : p (.text input) = ⟨[], .ok (.success (.text data) (.text rest))⟩) :
    result p input = ([], .ok (splitLine data rest ++ ['\n'])) := by
  rw [result, Parser.parse_of_success rfl (by rw [parsed]), parsed, ← objectLine_texts]
  rfl

theorem result_of_failure {expected : Value} (parsed : p (.text input) = ⟨[], .ok (.failure expected (.text input))⟩)
    (described : expected.describe = .ok (wanted isPattern pattern)) :
    result p input = ([Parser.failureRecord (wanted isPattern pattern)], .error (.refused (refusal isPattern pattern input))) := by
  have worded : Parser.failureWording expected (.text input) = .ok (refusal isPattern pattern input) := by
    rw [Parser.failureWording, described]
    rfl
  rw [result, Parser.parse_of_failure rfl (by rw [parsed]) described worded, parsed]
  rfl

theorem result_of_apart (apart : ¬ pattern <+: input) :
    result (Parser.literalOr (.text (wanted false pattern)) (.text pattern)) input =
      ([Parser.failureRecord (wanted false pattern)], .error (.refused (refusal false pattern input))) := by
  have differs : Parser.beginsWith (.text input) (.text pattern) = .ok false := by
    simpa [Parser.beginsWith, ← Bool.not_eq_true] using apart
  exact result_of_failure (Parser.literalOr_of_differs differs) rfl

theorem result_cases (valid : isPattern = true → ∃ q, Parser.compile characters (.text pattern) {} = .ok q) (input : Text) :
    ∃ p, parser characters isPattern pattern = .ok p ∧
      ((∃ data rest, data ++ rest = input ∧ Takes characters isPattern pattern input data ∧
        result p input = ([], .ok (splitLine data rest ++ ['\n']))) ∨
      ((∀ data, ¬ Takes characters isPattern pattern input data) ∧ result p input =
        ([Parser.failureRecord (wanted isPattern pattern)], .error (.refused (refusal isPattern pattern input))))) := by
  cases isPattern with
  | false =>
    refine ⟨_, parser_literal characters pattern, ?_⟩
    by_cases starts : pattern <+: input
    · obtain ⟨rest, rfl⟩ := starts
      have begins : Parser.beginsWith (.text (pattern ++ rest)) (.text pattern) = .ok true := by simp [Parser.beginsWith]
      have cut : Parser.rest ((Value.text pattern).length?.getD 0) (.text (pattern ++ rest)) = .ok (.text rest) := by
        simp [Parser.rest, Value.length?, Value.drop?]
      exact .inl ⟨pattern, rest, rfl, ⟨rfl, List.prefix_append ..⟩, result_of_success (Parser.literalOr_of_begins begins cut)⟩
    · exact .inr ⟨fun data taken => starts taken.2, result_of_apart starts⟩
  | true =>
    obtain ⟨q, compiled⟩ := valid rfl
    have source := compile_source compiled
    refine ⟨_, parser_matching compiled, ?_⟩
    cases found : q.matchText input with
    | none =>
      have parsed : Parser.matching q (.text input) = ⟨[], .ok (.failure (.pattern q) (.text input))⟩ := by
        simp [Parser.matching, source, found, Run.pure_def]
      have described : (Value.pattern q).describe = .ok (wanted true pattern) := by
        rw [Value.describe, source]
        rfl
      refine .inr ⟨?_, result_of_failure parsed described⟩
      rintro data ⟨q', compiled', taken⟩
      cases compiled.symm.trans compiled'
      rw [found] at taken
      cases taken
    | some count =>
      have parsed : Parser.matching q (.text input) =
          ⟨[], .ok (.success (.text (input.take count)) (.text (input.drop count)))⟩ := by
        simp [Parser.matching, source, found, Run.pure_def]
      have taken : Takes characters true pattern input (input.take count) := ⟨q, compiled, by rw [found]; rfl⟩
      exact .inl ⟨_, _, List.take_append_drop count input, taken, result_of_success parsed⟩

end parsing

section words

def wordsOf (isPattern : Bool) (pattern input : Text) : List Text :=
  (if isPattern then ["--regex".toList] else []) ++ ["--".toList, pattern, input]

/-- Settings that a pattern and an input give. -/
structure Gives (settings : Settings) (isPattern : Bool) (pattern input : Text) : Prop where
  isPattern : settings.isOn "use_regex".toList = isPattern
  pattern : settings.text? "pattern".toList = some pattern
  input : settings.text? "input_".toList = some input

theorem settingsOnly_wordsOf (isPattern : Bool) (pattern input : Text) (s : Storage) :
    ∃ settings, Gives settings isPattern pattern input ∧
      spec.settingsOnly s (wordsOf isPattern pattern input) none = ([], .ok settings) := by
  -- the page is long, and no word is compared with it
  unfold spec
  generalize matchPage = page
  cases isPattern with
  | false =>
    refine ⟨⟨none, [("pattern".toList, .text pattern), ("input_".toList, .text input), ("use_regex".toList, .switch false)]⟩, ?_, ?_⟩
    · constructor <;> cbv
    · cbv
  | true =>
    refine ⟨⟨none, [("use_regex".toList, .switch true), ("pattern".toList, .text pattern), ("input_".toList, .text input)]⟩, ?_, ?_⟩
    · constructor <;> cbv
    · cbv

theorem work_wordsOf (characters : CharacterNames) (isPattern : Bool) (pattern input : Text) (l : Logging) :
    ∃ settings, Gives settings isPattern pattern input ∧
      Toolkit.work ⟨spec, run characters⟩ (wordsOf isPattern pattern input) none l = run characters settings l := by
  obtain ⟨settings, gives, read⟩ := settingsOnly_wordsOf isPattern pattern input l.output.storage
  refine ⟨settings, gives, ?_⟩
  rw [Toolkit.work, read]
  rfl

end words

section answers

variable {characters : CharacterNames} {settings : Settings} {isPattern : Bool} {pattern input : Text} {p : Parser}

theorem run_of_line {line : Text} {records : List LogRecord} (gives : Gives settings isPattern pattern input)
    (made : parser characters isPattern pattern = .ok p) (given : result p input = (records, .ok line)) (l : Logging) :
    run characters settings l = ((l.logAll records).print line, .ok ()) := by
  rw [run, gives.isPattern, gives.pattern, gives.input, Option.getD_some, Option.getD_some, made]
  simp only [given]
  rfl

theorem run_of_ending {ending : Ending} {records : List LogRecord} (gives : Gives settings isPattern pattern input)
    (made : parser characters isPattern pattern = .ok p) (given : result p input = (records, .error ending)) (l : Logging) :
    run characters settings l = (l.logAll records, .error ending) := by
  rw [run, gives.isPattern, gives.pattern, gives.input, Option.getD_some, Option.getD_some, made]
  simp only [given]

/-- The line that the command prints is visible ASCII, and as JSON an object of two texts, of which the second one follows
the first one in the input; the first one is what the pattern takes, which for a literal is the literal itself. The command
ends with status 0 exactly if the pattern takes something. Else it logs one record, names the pattern and the whole input,
and ends with status 1; it prints nothing itself, and the first stream stays as it was unless the record is logged there.
All patterns and inputs can be given, and patterns may name characters by whatever names there are. -/
theorem splits_input (characters : CharacterNames) (gives : Gives settings isPattern pattern input)
    (valid : isPattern = true → ∃ q, Parser.compile characters (.text pattern) {} = .ok q) (l : Logging) :
    let answer := Answer.ofRun (run characters settings l)
    (answer.status = 0 → ∃ line data rest, Tells input line data rest ∧ Takes characters isPattern pattern input data ∧
      answer = ⟨0, l.output.print (line ++ ['\n']), none⟩) ∧
    (answer.status = 0 ↔ ∃ data, Takes characters isPattern pattern input data) ∧
    (isPattern = false → (answer.status = 0 ↔ pattern <+: input)) ∧
    (answer.status ≠ 0 →
      answer = ⟨1, (l.log (Parser.failureRecord (wanted isPattern pattern))).output.complain
        (Ending.errorLine (refusal isPattern pattern input)), none⟩ ∧
      (l.Quiet → answer.output.out = l.output.out)) ∧
    ∀ isPattern pattern input, ∃ settings, Gives settings isPattern pattern input ∧
      Toolkit.work ⟨spec, run characters⟩ (wordsOf isPattern pattern input) none l = run characters settings l := by
  intro answer
  obtain ⟨p, made, outcome⟩ := result_cases valid input
  have words (isPattern : Bool) (pattern input : Text) := work_wordsOf characters isPattern pattern input l
  have literal : isPattern = false → ((∃ data, Takes characters isPattern pattern input data) ↔ pattern <+: input) := by
    rintro rfl
    exact ⟨fun ⟨_, taken⟩ => taken.2, fun starts => ⟨pattern, rfl, starts⟩⟩
  rcases outcome with ⟨data, rest, rfl, takes, given⟩ | ⟨nothing, given⟩
  · have ends : answer = ⟨0, l.output.print (splitLine data rest ++ ['\n']), none⟩ :=
      congrArg Answer.ofRun (run_of_line gives made given l)
    have zero : answer.status = 0 := congrArg Answer.status ends
    have status : answer.status = 0 ↔ ∃ data', Takes characters isPattern pattern (data ++ rest) data' :=
      ⟨fun _ => ⟨data, takes⟩, fun _ => zero⟩
    exact ⟨fun _ => ⟨_, data, rest, splitLine_tells data rest, takes, ends⟩, status, fun isLiteral => status.trans (literal isLiteral),
      absurd zero, words⟩
  · have ends : answer = ⟨1, (l.log (Parser.failureRecord (wanted isPattern pattern))).output.complain
        (Ending.errorLine (refusal isPattern pattern input)), none⟩ := congrArg Answer.ofRun (run_of_ending gives made given l)
    have one : answer.status = 1 := congrArg Answer.status ends
    have nonzero : answer.status ≠ 0 := by
      rw [one]
      decide
    have status : answer.status = 0 ↔ ∃ data, Takes characters isPattern pattern input data :=
      ⟨fun zero => absurd zero nonzero, fun ⟨data, takes⟩ => absurd takes (nothing data)⟩
    refine ⟨fun zero => absurd zero nonzero, status, fun isLiteral => status.trans (literal isLiteral), fun _ => ⟨ends, fun quiet => ?_⟩, words⟩
    exact (congrArg (·.output.out) ends).trans (quiet.log _).out

/-- Of a quote and a character beyond the first 65536, behind two letters that a pattern takes by their name. -/
theorem letters_taken_by_pattern :
    let l := Logging.start .fresh []
    let pattern := "\\N\x7blatin small letter a\x7d+".toList
    let rest := ['"', Char.ofNat 0x1F600]
    let settings : Settings :=
      ⟨none, [("use_regex".toList, .switch true), ("pattern".toList, .text pattern), ("input_".toList, .text ('a' :: 'a' :: rest))]⟩
    ∃ line, Tells ('a' :: 'a' :: rest) line ['a', 'a'] rest ∧
      Answer.ofRun (run CharacterName.ascii settings l) = ⟨0, l.output.print (line ++ ['\n']), none⟩ := by
  intro l pattern rest settings
  have gives : Gives settings true pattern ('a' :: 'a' :: rest) := by constructor <;> cbv
  have found : ((Parser.compile CharacterName.ascii (.text pattern) {}).toOption.bind fun q =>
      (q.matchText ('a' :: 'a' :: rest)).map ('a' :: 'a' :: rest).take) = some ['a', 'a'] := by decide +kernel
  obtain ⟨q, made, matched⟩ := Option.bind_eq_some_iff.mp found
  have compiled : Parser.compile CharacterName.ascii (.text pattern) {} = .ok q := by
    cases given : Parser.compile CharacterName.ascii (.text pattern) {} with
    | error fault =>
      rw [given] at made
      cases made
    | ok q' =>
      rw [given] at made
      cases made
      rfl
  obtain ⟨splits, status, -⟩ := splits_input CharacterName.ascii gives (fun _ => ⟨q, compiled⟩) l
  obtain ⟨line, data, rest', tells, ⟨q', compiled', taken⟩, ends⟩ := splits (status.mpr ⟨_, q, compiled, matched⟩)
  cases compiled.symm.trans compiled'
  cases matched.symm.trans taken
  have whole : ['a', 'a'] ++ rest' = ['a', 'a'] ++ rest := tells.whole
  rw [List.append_cancel_left whole] at tells
  exact ⟨line, tells, ends⟩

end answers

section aloud

def aloudSetup : Logging.Setup := { logger := commandLogger, level := .int Level.debug, toOut := true }

def aloud : Logging := ((Logging.start .fresh []).configure aloudSetup).1

theorem aloud_log (message : Text) : (aloud.log ⟨"pcomb.parsing.driver".toList, .debug, message⟩).output.out ≠ [] := by
  have written : (aloud.log ⟨"pcomb.parsing.driver".toList, .debug, message⟩).output.out.isEmpty = false := by cbv
  simpa using written

/-- Where all records are logged to the first stream, the record about an input that does not begin with the pattern stands
there. And two halves of a surrogate pair are written like the character that they stand for, so that an input that holds
them cannot be told from one with the character; and what would be a half in UTF-8 is none, so that no message carries it. -/
theorem record_and_surrogates_break_split :
    let settings : Settings := ⟨none, [("stdout".toList, .switch true), ("log_level".toList, .text "DEBUG".toList)]⟩
    let answer := Answer.ofRun (Toolkit.dispatch Version.released settings ("match".toList :: wordsOf false ['a'] ['b']) (.start .fresh []))
    (¬ ['a'] <+: ['b'] ∧ answer.status = 1 ∧ answer.output.out ≠ []) ∧
      Json.quoteCodes [0xD83D, 0xDE00] = Json.quoteCodes [0x1F600] ∧ (Utf8.decode? [0xED, 0xA0, 0xBD]).toOption = none := by
  intro settings answer
  have made : Toolkit.setup settings = .ok aloudSetup := by cbv
  have configured : (Logging.start .fresh []).configure aloudSetup = (aloud, .ok ⟨.out, .full⟩) := rfl
  have noDefaults : settings.table.get? "match".toList = none := rfl
  have apart : ¬ ['a'] <+: ['b'] := by decide
  have pair : Json.quoteCodes [0xD83D, 0xDE00] = Json.quoteCodes [0x1F600] := by cbv
  have half : (Utf8.decode? [0xED, 0xA0, 0xBD]).toOption = none := by cbv
  obtain ⟨settings', gives, works⟩ := work_wordsOf CharacterName.ascii false ['a'] ['b'] aloud
  have runs := run_of_ending gives (parser_literal CharacterName.ascii _) (result_of_apart apart) aloud
  have known : Toolkit.commands.lookup (String.ofList "match".toList) = some ⟨spec, run CharacterName.ascii⟩ := rfl
  have ends := Toolkit.dispatch_of_setup known made configured Version.released (wordsOf false ['a'] ['b'])
  rw [noDefaults, works, runs] at ends
  have same : answer = .ofRun (aloud.log (Parser.failureRecord (wanted false ['a'])), .error (.refused (refusal false ['a'] ['b']))) :=
    congrArg Answer.ofRun ends
  rw [same]
  exact ⟨⟨apart, rfl, aloud_log _⟩, pair, half⟩

end aloud

end Match

end Command

end ParseKit
