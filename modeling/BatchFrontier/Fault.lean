import BatchFrontier.Bytes.Hex
import BatchFrontier.Bytes.Utf8
import BatchFrontier.Json.Fault
import BatchFrontier.Report
import BatchFrontier.Store.Fault

/-!
# Faults

Everything that can go wrong, by its cause. A fault carries what its text shows and nothing more.
Some faults are expected: the command line names them and ends in good order. The others escape it.
-/

namespace BatchFrontier

/-- Why the operating system refuses a file. -/
inductive FileFault where
  | notFound
  | isDirectory
  | notDirectory
  | nameTooLong
  deriving DecidableEq, Repr

/-- The number and the description of a file fault. -/
def FileFault.message : FileFault → String
  | .notFound => "[Errno 2] No such file or directory"
  | .isDirectory => "[Errno 21] Is a directory"
  | .notDirectory => "[Errno 20] Not a directory"
  | .nameTooLong => "[Errno 36] File name too long"

/-- An argument of a call, and how it fits. -/
structure Argument where
  value : Value
  /-- The kind under which it is reported. -/
  kind : String
  /-- The type of its parameter. -/
  parameter : String
  isFitting : Bool
  deriving Repr

/-- A call whose arguments do not all fit the function of a contract. -/
structure Mismatch where
  function : String
  /-- The types of the parameters. -/
  parameters : List String
  arguments : List Argument
  deriving Repr

/-- What is wrong with data in words. -/
inductive WordFault where
  /-- There are fewer bytes than a word has. -/
  | shortWord (wanted found : Nat)
  /-- There are fewer bytes than the filled bytes of a byte string have. -/
  | shortBytes (wanted found : Nat)
  /-- A distance in a tuple, whose word stands at a place, leads nowhere. -/
  | tupleDistance (place : Nat)
  /-- A distance in a list, whose word stands at a place, leads nowhere. -/
  | listDistance (place : Nat)
  /-- The filling of a value is not zero. -/
  | filling (bs : List UInt8)
  deriving DecidableEq, Repr

/-- The text of a reading that finds fewer bytes than it wants. -/
def WordFault.shortText (wanted found : Nat) : String :=
  "Tried to read " ++ Text.natural wanted ++ " bytes, only got " ++ Text.natural found ++ " bytes"

/-- What is wrong with data in words, in words. -/
def WordFault.message : WordFault → String
  | .shortWord wanted found => shortText wanted found ++ "."
  | .shortBytes wanted found => shortText wanted found
  | .tupleDistance place =>
    "Invalid pointer in tuple at location " ++ Text.natural place ++ " in payload"
  | .listDistance place =>
    "Invalid pointer in array at location " ++ Text.natural place ++ " in payload"
  | .filling bs => "Padding bytes were not empty: " ++ Text.quoteBytes bs

/-- What is wrong with the name of a host. -/
inductive HostFault where
  /-- A label is empty or too long. -/
  | badLength
  /-- The last label is too long. -/
  | longLast
  /-- A label has a character that is not allowed. -/
  | forbidden (c : Code)
  /-- A label begins like a form in ASCII and is none. -/
  | marked
  deriving DecidableEq, Repr

/-- What is wrong with the name of a host, in words. -/
def HostFault.wording : HostFault → String
  | .badLength => "label empty or too long"
  | .longLast => "label too long"
  | .forbidden c => "Invalid character " ++ (Text.ofCode c).quote
  | .marked => "Label starts with ACE prefix"

/-- What is wrong with the URL of a place that offers data. -/
inductive PlaceFault where
  /-- One bracket stands without the other. -/
  | brackets
  /-- An address of a version to come is not written well. -/
  | futureAddress
  /-- An address stands in brackets that takes none. -/
  | bracketedAddress
  /-- What stands in brackets is no address. -/
  | notAddress (name : Text)
  /-- A character in the authority stands for a part of the grammar. -/
  | disguised (authority : Text)
  /-- The name of the host is not well-formed. -/
  | host (fault : HostFault)
  deriving DecidableEq, Repr

/-- What is wrong with the URL of a place, in words. -/
def PlaceFault.message : PlaceFault → Text
  | .brackets => "Invalid IPv6 URL"
  | .futureAddress => "IPvFuture address is invalid"
  | .bracketedAddress => "An IPv4 address cannot be in brackets"
  | .notAddress name => name.quote ++ " does not appear to be an IPv4 or IPv6 address"
  | .disguised authority =>
    "netloc '" ++ authority ++ "' contains invalid characters under NFKC normalization"
  | .host fault => "encoding with 'idna' codec failed (UnicodeError: " ++ fault.wording ++ ")"

/-- The cause of a failure. -/
inductive Fault where
  -- proofs and roots
  | proofLength (length : Nat)
  | proofWord (index : Nat) (chunk : Text)
  | rootDigits (name text : Text)
  | rootLength (name : Text) (length : Nat)
  -- what the chain says
  | emptyChainId (rollup : Value)
  | reverted (reason : Text)
  | unreachable (url : Value)
  | refused (answer : Report)
  | unknownPanic (code : Text)
  | badResponse (complaint raw : String)
  | mismatch (call : Mismatch)
  | emptyAnswer
  | badAnswer (signature : String) (data : List UInt8) (types : String)
  | words (fault : WordFault)
  | foreignSender
  | lookupFailed
  | unmarked (text : Text)
  | place (fault : PlaceFault)
  | blockField (shown : String) (field : Text)
  | blockFieldKind (shown : String) (field : Text)
  | extraData (data : List UInt8)
  | notRecord (kind : String)
  | reported (label : String) (report : Report)
  -- identities
  | chainNotPositive (chain : Value)
  | noKey (cause : Fault)
  | noAuthorization (cause : Fault)
  | frozen (field : String)
  -- settings
  | managerUnset
  | legacyUnset
  | settingChain (chain : Value)
  | settingRollup (rollup : Value)
  | unknownSetting (name : Text)
  -- providers and fields
  | noProviders (what : Value)
  | unknownField
  | missingKey (key : Value)
  | outOfRange (kind : String)
  | missingFunction (name : String)
  | notIndexable (kind : String)
  -- conversions
  | badAddress (value : Value)
  | integerText (value : Value)
  | quantityText (value : Value)
  | integerDigits (digits : Nat)
  | unwrittenInteger
  | realOfInteger
  | farMoment
  | momentBeyond
  | yearBeyond
  | integerOfInfinity
  | integerOfUndefined
  | negativeBytes (n : Int)
  | negativeCount
  | byteRange
  | notHex
  | notHexAt (position : Nat)
  | notBytes (value : Value)
  | notAscii (gap : Utf8.Gap)
  | hugeCount
  | mistyped (kind : String)
  -- the ledger and the store
  | tableName (name : Value)
  | placeholderStyle (style : Value)
  | hugeInteger
  | storage (fault : Store.Fault)
  -- files
  | file (fault : FileFault) (path : Text)
  | nullInPath
  | json (fault : Json.Fault)
  | tooNested
  | utf8 (defect : Utf8.Defect)
  | notUtf8 (gap : Utf8.Gap)
  deriving Repr

namespace Fault

/-- What is wrong with a sequence of bytes, in words. -/
def flawWording : Utf8.Flaw → String
  | .start => "invalid start byte"
  | .continuation => "invalid continuation byte"
  | .cutShort => "unexpected end of data"

/-- The text of a byte sequence that is not valid UTF-8. -/
def utf8Text (d : Utf8.Defect) : String :=
  let place :=
    if d.stop = d.first + 1 then
      "byte 0x" ++ String.ofList (Text.hexOfWidth 2 d.byte.toNat) ++ " in position " ++
        Text.natural d.first
    else "bytes in position " ++ Text.natural d.first ++ "-" ++ Text.natural (d.stop - 1)
  "'utf-8' codec can't decode " ++ place ++ ": " ++ flawWording d.flaw

/-- The text of codes that have no bytes in an encoding. -/
def gapText (encoding : String) (gap : Utf8.Gap) (why : String) : String :=
  let place :=
    if gap.stop = gap.first + 1 then
      "character '" ++ String.ofList (Text.codeEscape gap.code.toNat) ++ "' in position " ++
        Text.natural gap.first
    else "characters in position " ++ Text.natural gap.first ++ "-" ++ Text.natural (gap.stop - 1)
  "'" ++ encoding ++ "' codec can't encode " ++ place ++ ": " ++ why

/-- The line about an argument and its number. -/
def argumentLine (a : Argument) (i : Nat) : Text :=
  "Argument " ++ Text.natural i ++ " value `" ++ a.value.shown ++ "` is " ++
    (if a.isFitting then "valid" else "not compatible with type `" ++ a.parameter ++ "`") ++ ".\n"

/-- The text of a call whose arguments do not fit. -/
def mismatchText (m : Mismatch) : Text :=
  let signature := m.function ++ "(" ++ String.intercalate "," m.parameters ++ ")"
  let lines := (m.arguments.zipIdx 1).map fun a => argumentLine a.1 a.2
  "\nABI Not Found!\nFound 1 element(s) named `" ++ m.function ++ "` that accept " ++
    Text.natural m.parameters.length ++ " argument(s).\nThe provided arguments are not valid.\n" ++
    "Provided argument types: (" ++
    String.intercalate "," (m.arguments.map (·.kind)) ++
    ")\nProvided keyword argument types: \x7b\x7d\n\n" ++
    "Tried to find a matching ABI element named `" ++ m.function ++
    "`, but encountered the following problems:\nSignature: " ++ signature ++
    ", type: function\n" ++ Text.join lines

/-- The text of a response that does not follow the protocol. -/
def responseText (complaint raw : String) : String :=
  "The response was in an unexpected format and unable to be parsed. " ++ complaint ++
    ". The raw response is: " ++ raw

/-- The text of a field with more bytes than a block has room for. -/
def extraDataText (data : List UInt8) : String :=
  "The field extraData is " ++ Text.natural data.length ++ " bytes, but should be 32. " ++
    "It is quite likely that you are connected to a POA chain. Refer to " ++
    "http://web3py.readthedocs.io/en/stable/middleware.html#proof-of-authority for more " ++
    "details. The full extraData is: HexBytes('" ++ Hex.writeMarked data ++ "')"

/-- The text of a value that stands for no bytes, as a node answered it. -/
def notBytesText (v : Value) : String :=
  let kind := match v with
    | .record _ => "web3.datastructures.AttributeDict"
    | v => v.kind
  "Cannot convert " ++ v.attributeLiteral ++ " of type <class '" ++ kind ++ "'> to bytes"

/-- The text of a fault. -/
def message : Fault → Text
  | .proofLength n => "invalid proof length. Length: " ++ Text.natural n
  | .proofWord i chunk =>
    "failed to decode proof word " ++ Text.natural i ++ ": " ++ chunk.quote ++
      " is not 32 bytes of hex"
  | .rootDigits name text => name ++ " is not an even-length hex string: " ++ text.quote
  | .rootLength name n => name ++ " must be 32 bytes, got " ++ Text.natural n
  | .emptyChainId rollup => "chainID received is 0 (rollupID " ++ rollup.shown ++ ")"
  | .reverted reason => "execution reverted: " ++ reason
  | .unreachable url => "Failed to connect to RPC endpoint: " ++ url.shown
  | .refused r => r.text
  | .unknownPanic code => code.quote
  | .mismatch m => mismatchText m
  | .emptyAnswer =>
    "Could not transact with/call contract function, " ++
      "is contract deployed correctly and chain synced?"
  | .badAnswer signature data types =>
    "Could not decode contract function call to " ++ signature ++ " with return data: " ++
      Text.quoteBytes data ++ ", output_types: " ++ types
  | .badResponse complaint raw => responseText complaint raw
  | .words fault => fault.message
  | .foreignSender =>
    "Cannot handle OffchainLookup raised inside nested call. Returned `sender` value does not " ++
      "equal `to` address in transaction."
  | .lookupFailed => "Offchain lookup failed for supplied urls."
  | .unmarked text => "Expected a hex string. Got: " ++ text.quote
  | .place fault => fault.message
  | .blockField shown field =>
    "Could not format invalid value " ++ shown ++ " as field " ++ field.quote
  | .blockFieldKind shown field =>
    "Could not format invalid type " ++ shown ++ " as field " ++ field.quote
  | .extraData data => extraDataText data
  | .notRecord kind => "'" ++ kind ++ "' object has no attribute 'items'"
  | .reported _ r => r.text
  | .chainNotPositive chain =>
    "failed to generate a fake authorization to estimate L1 txs: invalid chain id " ++ chain.shown
  | .noKey _ => "failed to generate a private key to estimate L1 txs"
  | .noAuthorization cause => "failed to build trusted verify batches, err: " ++ cause.message
  | .frozen field => "cannot assign to field '" ++ field ++ "'"
  | .managerUnset => "rollup manager address is not set (ROLLUP_MANAGER_ADDRESS or --manager)"
  | .legacyUnset => "legacy rollup address is not set (LEGACY_ROLLUP_ADDRESS or --legacy)"
  | .settingChain chain => "L1 chain id must be > 0, got " ++ chain.shown
  | .settingRollup rollup => "rollup id must be > 0, got " ++ rollup.shown
  | .unknownSetting name => "unexpected setting '" ++ name ++ "'"
  | .noProviders what => "no providers configured for " ++ what.shown
  | .unknownField => "tuple.index(x): x not in tuple"
  | .missingKey key => key.literal
  | .outOfRange "" => "index out of range"
  | .outOfRange kind => kind ++ " index out of range"
  | .missingFunction name => name
  | .notIndexable kind => "'" ++ kind ++ "' object is not subscriptable"
  | .badAddress v => "Invalid address: " ++ v.literal
  | .integerText v =>
    "invalid literal for int() with base 10: " ++ String.ofList (v.literal.toList.take 200)
  | .quantityText v =>
    "invalid literal for int() with base 16: " ++ String.ofList (v.literal.toList.take 200)
  | .integerDigits n =>
    "Exceeds the limit (4300 digits) for integer string conversion: value has " ++
      Text.natural n ++ " digits; use sys.set_int_max_str_digits() to increase the limit"
  | .unwrittenInteger =>
    "Exceeds the limit (4300 digits) for integer string conversion; " ++
      "use sys.set_int_max_str_digits() to increase the limit"
  | .realOfInteger => "int too large to convert to float"
  | .farMoment => "[Errno 75] Value too large for defined data type"
  | .momentBeyond => "timestamp out of range for platform time_t"
  | .yearBeyond => "signed integer is greater than maximum"
  | .integerOfInfinity => "cannot convert float infinity to integer"
  | .integerOfUndefined => "cannot convert float NaN to integer"
  | .negativeBytes n => "Cannot convert negative integer " ++ Text.integer n ++ " to bytes"
  | .negativeCount => "negative count"
  | .byteRange => "bytes must be in range(0, 256)"
  | .notHex => "Non-hexadecimal digit found"
  | .notHexAt i => "non-hexadecimal number found in fromhex() arg at position " ++ Text.natural i
  | .notBytes v => notBytesText v
  | .notAscii gap => gapText "ascii" gap "ordinal not in range(128)"
  | .hugeCount => "cannot fit 'int' into an index-sized integer"
  | .mistyped kind => "unexpected value of kind '" ++ kind ++ "'"
  | .tableName name => "Invalid table name: " ++ name.literal
  | .placeholderStyle style => "Unsupported paramstyle: " ++ style.literal
  | .hugeInteger => "Python int too large to convert to SQLite INTEGER"
  | .storage fault => fault.message
  | .nullInPath => "embedded null byte"
  | .file fault path => fault.message ++ ": " ++ path.quote
  | .json fault => fault.message
  | .tooNested => "maximum recursion depth exceeded"
  | .utf8 defect => utf8Text defect
  | .notUtf8 gap => gapText "utf-8" gap "surrogates not allowed"

/-- A fault whose text shows a value. If the value cannot be written, that is the fault instead. -/
def showing (fault : Value → Fault) (v : Value) : Fault :=
  if v.isWritable then fault v else .unwrittenInteger

theorem showing_of_isWritable (fault : Value → Fault) {v : Value} (h : v.isWritable = true) :
    showing fault v = fault v := if_pos h

theorem showing_of_not_isWritable (fault : Value → Fault) {v : Value}
    (h : v.isWritable = false) : showing fault v = .unwrittenInteger := by
  rw [showing, h]
  rfl

/-- Whether the fault is a request to stop. -/
def isStop : Fault → Bool
  | .reported _ r => r.kind == .stop
  | _ => false

/-- Whether the command line names the fault and ends in good order. -/
def isExpected : Fault → Bool
  | .reported _ r => r.isExpected
  | .outOfRange _ | .missingFunction _ | .notIndexable _ | .mistyped _ | .notBytes _ | .hugeInteger
  | .hugeCount | .integerOfInfinity | .realOfInteger | .momentBeyond | .yearBeyond
  | .unknownSetting _ | .frozen _ | .tooNested | .words _ | .blockFieldKind .. | .notRecord _ =>
    false
  | _ => true

end Fault

end BatchFrontier
