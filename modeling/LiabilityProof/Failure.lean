import LiabilityProof.Datum.Obstacle
import LiabilityProof.Datum.Printer
import LiabilityProof.Json.Fault
import LiabilityProof.Text.Numeral
import LiabilityProof.Text.Surrogate
import LiabilityProof.Text.Template
import LiabilityProof.Url.Fault

/-!
# Failures

Everything that can go wrong, by cause. A cause carries what its message shows; the wording of
all messages is in `Failure.message`, and `Failure.kind` sorts the causes into the kinds that
callers tell apart when they decide what to report and what to pass on.

A message is made where a failure is raised. If it shows a value from outside that cannot be
shown, the attempt to raise the failure ends in another one: `Failure.showing` is what comes of
it. Lengths of sequences and positions in them are always short enough.
-/

namespace LiabilityProof

/-- Why a file cannot be used. -/
inductive FileProblem where
  /-- There is none. -/
  | missing
  /-- The path leads through a file as if it were a directory. -/
  | notDirectory
  /-- The path leads to a directory. -/
  | isDirectory
  /-- The path, or a name in it, is too long. -/
  | nameTooLong
  /-- What should name a file is a number that none is open under. -/
  | badHandle
  /-- A variable has no name. -/
  | noName
deriving DecidableEq

/-- Why a request is not answered by what it asks for. -/
inductive RequestProblem where
  /-- It was sent to a host that is not trusted. -/
  | untrustedHost
  /-- It was sent to a name that is no host's. -/
  | badHost
  /-- There is nothing at its path. -/
  | missing
  /-- What is at its path has another method. -/
  | otherMethod
  /-- What it asks for has another path. -/
  | redirected
  /-- What is at its path is no stream. -/
  | noStream
  /-- Its body is too large. -/
  | tooLarge
deriving DecidableEq

/-- The kinds of failure that callers tell apart. -/
inductive FailureKind where
  /-- The set-up, the ledger and the circuit's shape do not fit together. -/
  | configuration
  /-- A user lies outside the ledger. -/
  | outOfRange
  /-- A proof just made does not verify. -/
  | selfCheck
  /-- A commitment was not accepted by the signer. -/
  | dispatch
  /-- A value has the right shape and an unacceptable content. -/
  | value
  /-- A document is not JSON. -/
  | json
  /-- Bytes are not UTF-8, or code points have none. -/
  | encoding
  /-- An object lacks a field. -/
  | missingField
  /-- A value has the wrong shape. -/
  | shape
  /-- A value lacks a property of the thing it should be. -/
  | property
  /-- A position lies past the end of a sequence. -/
  | position
  /-- A number does not fit the width it is to be written in. -/
  | width
  /-- A file cannot be used. -/
  | file (problem : FileProblem)
  /-- A field of a ledger is too long. -/
  | field
  /-- A document is nested too deeply. -/
  | depth
  /-- A part of a host's name is empty or too long. -/
  | label
  /-- A result is too large to be held. -/
  | memory
  /-- An operation that values of the kind do not have. -/
  | unsupported
  /-- A request is not answered by what it asks for. -/
  | request (problem : RequestProblem)
deriving DecidableEq

/-- How a signer refused a commitment. -/
inductive Refusal where
  /-- The submission was rejected. -/
  | rejected
  /-- The submission was found invalid. -/
  | invalid
  /-- The signer offers no submission at all. -/
  | unimplemented
  /-- Something else, by its name. -/
  | other (name : String)
deriving DecidableEq

/-- What went wrong. -/
inductive Failure where
  -- configuration
  | notSingleCurrency (count : Nat)
  | badHeader (path : String)
  | rowWidth (path : String) (row found expected : Nat)
  | badRow (path : String) (row : Nat) (cause : Failure)
  | noDomainExponent (provenance : Datum)
  | domainExponentTooLarge (k : Nat)
  | unreadableParameters (path : Datum) (cause : Failure)
  | tooFewCurrencies (count : Datum)
  | parametersTooShort (maxDegree : Datum) (size : Nat)
  | missingTau
  | tooManyUsers (count : Nat) (size : Datum)
  | balanceCount (username : Datum) (count : Nat) (currencies : Datum)
  | columnCount (found : Nat) (expected : Datum)
  | columnDegree (column degree size : Nat)
  | columnOutOfRange (column : Datum) (width : Nat)
  -- range
  | userNotInteger (user : Datum)
  | userOutOfRange (user : Int) (count : Nat)
  -- self-check
  | selfCheck (user column : Datum)
  -- dispatch
  | dispatchTimedOut (timestamp timeout : Datum)
  | dispatchRefused (timestamp : Datum) (refusal : Refusal) (reason : String)
  | dispatchFailed (reason : String)
  | dispatchUnspoken (cause : Failure)
  | dispatchLimit (timestamp limit : Datum)
  | dispatchLimitTooLarge (timestamp : Datum)
  -- values
  | notFieldElement (value : Datum)
  | outsideField (value : Int)
  | pointWidth (count : Nat)
  | notPowerOfTwo (order : Datum)
  | orderTooLarge (order : Int)
  | transformLength (count : Nat)
  | degreeTooLarge (degree : Nat) (maxDegree : Datum)
  | noParameters (path : String)
  | balanceNotInteger (username balance : Datum)
  | balanceNegative (username : Datum) (balance : Int)
  | notUnsigned (value : Datum)
  | negative (value : Int)
  | usernameNotText (value : Datum)
  | numeral (fault : NumeralFault)
  | template (fault : TemplateFault)
  | numeralTooLong
  | notHexadecimal (position : Nat)
  | negativeShift
  | notANumber
  | secondPointOffCurve
  | firstPointOffCurve
  | embeddedNull
  | badVariableName
  | lineBreakInHeader
  | negativeHandle
  | rowNumberTaken (number : Int)
  -- documents and files
  | notJson (fault : Json.SyntaxFault)
  | tooDeep
  | notUtf8
  | brokenText (text : Text.Broken)
  | fieldTooLong
  | file (problem : FileProblem) (path : String)
  -- requests
  | url (fault : UrlFault)
  | badLabel
  | request (problem : RequestProblem)
  -- shapes
  | missingField (name : Datum)
  | wrongShape
  | noSuchProperty
  | pastTheEnd
  | tooWide
  | tooMuch
  | notSupported

namespace Failure

/-- The kind of a fault of a template. -/
def templateKind : TemplateFault → FailureKind
  | .mismatch => .shape
  | .numberTooLarge => .width
  | .tooMuch => .memory
  | _ => .value

/-- The kind of a failure. -/
def kind : Failure → FailureKind
  | notSingleCurrency _ | badHeader _ | rowWidth .. | badRow .. | noDomainExponent _
  | domainExponentTooLarge _ | unreadableParameters .. | tooFewCurrencies _
  | parametersTooShort .. | missingTau | tooManyUsers .. | balanceCount .. | columnCount ..
  | columnDegree .. | columnOutOfRange .. => .configuration
  | userNotInteger _ | userOutOfRange .. => .outOfRange
  | selfCheck .. => .selfCheck
  | dispatchTimedOut .. | dispatchRefused .. | dispatchFailed _ | dispatchUnspoken _
  | dispatchLimit .. | dispatchLimitTooLarge _ => .dispatch
  | notFieldElement _ | outsideField _ | pointWidth _ | notPowerOfTwo _ | orderTooLarge _
  | transformLength _ | degreeTooLarge .. | noParameters _ | balanceNotInteger ..
  | balanceNegative .. | notUnsigned _ | negative _ | usernameNotText _ | numeral _
  | numeralTooLong | notHexadecimal _ | negativeShift | notANumber | secondPointOffCurve
  | firstPointOffCurve | embeddedNull | badVariableName | lineBreakInHeader | negativeHandle
  | rowNumberTaken _ | url _ => .value
  | notJson _ => .json
  | tooDeep => .depth
  | notUtf8 | brokenText _ => .encoding
  | fieldTooLong => .field
  | file problem _ => .file problem
  | badLabel => .label
  | request problem => .request problem
  | missingField _ => .missingField
  | wrongShape => .shape
  | noSuchProperty => .property
  | pastTheEnd => .position
  | tooWide => .width
  | tooMuch => .memory
  | notSupported => .unsupported
  | template fault => templateKind fault

/-- The words for a problem with a file, and its number. -/
def fileMessage : FileProblem → String
  | .missing => "[Errno 2] No such file or directory"
  | .notDirectory => "[Errno 20] Not a directory"
  | .isDirectory => "[Errno 21] Is a directory"
  | .nameTooLong => "[Errno 36] File name too long"
  | .badHandle => "[Errno 9] Bad file descriptor"
  | .noName => "[Errno 22] Invalid argument"

/-- The words for a failure. Failures of shape have none. -/
def message : Failure → String
  | notSingleCurrency count => "단일 통화 엔트리가 아닙니다: 통화 수 " ++ Text.ofNat count
  | badHeader path => "CSV 헤더가 올바르지 않습니다: " ++ path
  | rowWidth path row found expected =>
    path ++ ":" ++ Text.ofNat row ++ ": 열 수 " ++ Text.ofNat found ++ " != 헤더 " ++
      Text.ofNat expected
  | badRow path row cause => path ++ ":" ++ Text.ofNat row ++ ": " ++ cause.message
  | noDomainExponent provenance =>
    "신뢰 설정 식별자에서 k를 읽을 수 없습니다: " ++ provenance.shown
  | domainExponentTooLarge k => "k는 28 이하여야 합니다: " ++ Text.ofNat k
  | unreadableParameters path cause =>
    "신뢰 설정 파라미터를 읽지 못했습니다: " ++ path.display ++ ": " ++ cause.message
  | tooFewCurrencies count => "통화 수는 1 이상이어야 합니다: " ++ count.display
  | parametersTooShort maxDegree size =>
    "SRS 최대 차수 " ++ maxDegree.display ++ "가 도메인 크기 " ++ Text.ofNat size ++
      "을 지원하지 못합니다"
  | missingTau => "SRS에 [τ]₂가 없습니다"
  | tooManyUsers count size =>
    "사용자 수 " ++ Text.ofNat count ++ "가 도메인 크기 " ++ size.display ++ "을 초과합니다"
  | balanceCount username count currencies =>
    username.display ++ ": 잔고 수 " ++ Text.ofNat count ++ " != 통화 수 " ++
      currencies.display
  | columnCount found expected =>
    "열 다항식 수 " ++ Text.ofNat found ++ " != 회로 열 수 " ++ expected.display
  | columnDegree column degree size =>
    "열 " ++ Text.ofNat column ++ " 다항식 차수 " ++ Text.ofNat degree ++ "가 도메인 크기 " ++
      Text.ofNat size ++ " 이상입니다"
  | columnOutOfRange column width =>
    "열 인덱스 " ++ column.display ++ "가 회로 폭 " ++ Text.ofNat width ++ "을 벗어났습니다"
  | userNotInteger user => "사용자 인덱스는 정수여야 합니다: " ++ user.shown
  | userOutOfRange user count =>
    "사용자 인덱스 " ++ Text.ofInt user ++ "가 범위 [0, " ++ Text.ofNat count ++
      ")를 벗어났습니다"
  | selfCheck user column =>
    "KZG proof verification failed for user " ++ user.display ++ " (column " ++
      column.display ++ ")"
  | dispatchTimedOut timestamp timeout =>
    "커밋먼트 제출 시간 초과 (round " ++ timestamp.display ++ ", " ++ timeout.display ++ "s)"
  | dispatchRefused timestamp _ reason =>
    "커밋먼트 제출 실패 (round " ++ timestamp.display ++ "): " ++ reason
  | dispatchFailed reason => reason
  | dispatchLimit timestamp limit =>
    "커밋먼트 제출 실패 (round " ++ timestamp.display ++ "): '<=' not supported between instances of '" ++
      limit.shape ++ "' and 'int'"
  | dispatchLimitTooLarge timestamp =>
    "커밋먼트 제출 실패 (round " ++ timestamp.display ++ "): int too large to convert to float"
  | notFieldElement value => "필드 원소는 정수여야 합니다: " ++ value.shown
  | outsideField value => "필드 원소 범위 [0, p)를 벗어났습니다: " ++ Text.ofInt value
  | pointWidth count => "G1 점은 64바이트여야 합니다: " ++ Text.ofNat count
  | notPowerOfTwo order => "n은 2의 거듭제곱이어야 합니다: " ++ order.display
  | orderTooLarge order => "n은 2^28 이하여야 합니다: " ++ Text.ofInt order
  | transformLength count => "NTT 길이는 2의 거듭제곱이어야 합니다: " ++ Text.ofNat count
  | degreeTooLarge degree maxDegree =>
    "다항식 차수 " ++ Text.ofNat degree ++ "가 SRS 최대 차수 " ++ maxDegree.display ++
      "를 초과합니다"
  | noParameters path => "SRS 레코드가 없습니다: " ++ path
  | balanceNotInteger username balance =>
    "잔고는 정수여야 합니다: " ++ username.display ++ "=" ++ balance.shown
  | balanceNegative username balance =>
    "잔고는 음수일 수 없습니다: " ++ username.display ++ "=" ++ Text.ofInt balance
  | notUnsigned value => "정수가 아닙니다: " ++ value.shown
  | negative value => "음수는 허용하지 않습니다: " ++ Text.ofInt value
  | usernameNotText value => "username은 문자열이어야 합니다: " ++ value.shown
  | numeral fault => fault.message
  | template fault => fault.message
  | numeralTooLong =>
    "Exceeds the limit (4300 digits) for integer string conversion; " ++
      "use sys.set_int_max_str_digits() to increase the limit"
  | notHexadecimal position =>
    "non-hexadecimal number found in fromhex() arg at position " ++ Text.ofNat position
  | negativeShift => "negative shift count"
  | notANumber => "cannot convert float NaN to integer"
  | secondPointOffCurve => "Invalid input - point Q is not on the correct curve"
  | firstPointOffCurve => "Invalid input - point P is not on the correct curves"
  | embeddedNull => "embedded null byte"
  | badVariableName => "illegal environment variable name"
  | lineBreakInHeader => "Header values must not contain newline characters."
  | negativeHandle => "negative file descriptor"
  | rowNumberTaken number => "Document with ID " ++ Text.ofInt number ++ " already exists"
  | notJson fault => fault.message
  | notUtf8 => "the file is not UTF-8"
  | brokenText text => text.message
  | file .badHandle _ => fileMessage .badHandle
  | file problem path => fileMessage problem ++ ": " ++ Text.quote path
  | url fault => fault.message
  | missingField name => name.shown
  | tooDeep | fieldTooLong | badLabel | request _ | wrongShape | noSuchProperty | pastTheEnd
  | tooWide | tooMuch | notSupported | dispatchUnspoken _ => ""

/-- The words for a failure, unless nobody can say them. -/
def words : Failure → Except Failure String
  | dispatchUnspoken cause => .error cause
  | failure => .ok failure.message

/-! ### Raising a failure -/

/-- What the attempt to show a value fails with. -/
def ofObstacle : Datum.Obstacle → Failure
  | .tooManyDigits => numeralTooLong
  | .tooDeep => tooDeep

theorem kind_ofObstacle (obstacle : Datum.Obstacle) :
    (ofObstacle obstacle).kind = .value ∨ (ofObstacle obstacle).kind = .depth := by
  cases obstacle with
  | tooManyDigits => exact .inl rfl
  | tooDeep => exact .inr rfl

/-- What comes of raising a failure with a message that shows some values: the failure, if all
of them can be shown. -/
def showing (values : List Datum) (failure : Failure) : Failure :=
  match values.findSome? Datum.obstacle? with
  | some obstacle => ofObstacle obstacle
  | none => failure

theorem showing_of_forall {values : List Datum} (h : ∀ d ∈ values, d.obstacle? = none)
    (failure : Failure) : showing values failure = failure := by
  rw [showing, List.findSome?_eq_none_iff.mpr h]

/-- A failure is raised as it is, or a value of its message cannot be shown. -/
theorem showing_cases (values : List Datum) (failure : Failure) :
    showing values failure = failure ∨
      ∃ d ∈ values, ∃ obstacle, d.obstacle? = some obstacle ∧
        showing values failure = ofObstacle obstacle := by
  rw [showing]
  split
  next obstacle hfound =>
    obtain ⟨d, hd, hobstacle⟩ := List.exists_of_findSome?_eq_some hfound
    exact .inr ⟨d, hd, obstacle, hobstacle, rfl⟩
  next => exact .inl rfl

theorem showing_singleton (d : Datum) (failure : Failure) :
    showing [d] failure = (d.obstacle?.map ofObstacle).getD failure := by
  rw [showing, List.findSome?_singleton]
  cases d.obstacle? with
  | none => rfl
  | some obstacle => rfl

/-- With one integer in its message, a failure is raised unless the integer is too long. -/
theorem showing_integer (n : Int) (failure : Failure) :
    showing [.integer n] failure = if Text.isTooLong n then numeralTooLong else failure := by
  rw [showing_singleton, Datum.obstacle?_integer]
  cases Text.isTooLong n with
  | false => rfl
  | true => rfl

theorem showing_integer_of_short {n : Int} (h : Text.isTooLong n = false) (failure : Failure) :
    showing [.integer n] failure = failure := by
  rw [showing_integer, h]
  rfl

theorem showing_nil (failure : Failure) : showing [] failure = failure := rfl

theorem showing_text (s : String) (values : List Datum) (failure : Failure) :
    showing (.text s :: values) failure = showing values failure := rfl

/-- An integer that is too long to be shown is a wrong value. -/
theorem kind_showing_integer (n : Int) {failure : Failure} (h : failure.kind = .value) :
    (showing [.integer n] failure).kind = .value := by
  rw [showing_integer]
  split
  · rfl
  · exact h

end Failure

end LiabilityProof
