import LoadedImage.Address

/-!
# The header of an image

The header says where the image was linked and how far its parts lie from its own
address. Every field is one 64-bit word. `Header.Field` names the ten fields in the
order in which they are stored; `Header.word` reads the word of a field, and
`Header.ofWords` builds the header with given words (`Header.word_ofWords`,
`Header.ofWords_word`).
-/

namespace LoadedImage

/-- What an image says of itself. Distances are taken from the address of the header. -/
structure Header where
  /-- The address the image was linked at. -/
  linkAddress : Address
  imageBase : Int64
  activate : Int64
  mainExitTask : Int64
  unwind : Int64
  yield : Int64
  debugInfo : Int64
  debugInfoSize : UInt64
  debugAbbrev : Int64
  debugAbbrevSize : UInt64
deriving DecidableEq

namespace Header

/-- The fields in stored order. -/
inductive Field where
  | linkAddress
  | imageBase
  | activate
  | mainExitTask
  | unwind
  | yield
  | debugInfo
  | debugInfoSize
  | debugAbbrev
  | debugAbbrevSize
deriving DecidableEq

namespace Field

/-- All fields in stored order. -/
def all : List Field :=
  [linkAddress, imageBase, activate, mainExitTask, unwind, yield, debugInfo, debugInfoSize,
    debugAbbrev, debugAbbrevSize]

/-- The place of the field among the ten. -/
def index : Field → Nat
  | linkAddress => 0
  | imageBase => 1
  | activate => 2
  | mainExitTask => 3
  | unwind => 4
  | yield => 5
  | debugInfo => 6
  | debugInfoSize => 7
  | debugAbbrev => 8
  | debugAbbrevSize => 9

/-- The name of the field in the layout description of the image format. -/
def label : Field → String
  | linkAddress => "self_addr"
  | imageBase => "image_base_off"
  | activate => "activate_glue_off"
  | mainExitTask => "main_exit_task_glue_off"
  | unwind => "unwind_glue_off"
  | yield => "yield_glue_off"
  | debugInfo => "debug_info_off"
  | debugInfoSize => "debug_info_sz"
  | debugAbbrev => "debug_abbrev_off"
  | debugAbbrevSize => "debug_abbrev_sz"

/-- The field with the given label. -/
def ofLabel? (label : String) : Option Field :=
  all.find? fun f => f.label = label

/-- Whether the word of the field is a signed distance. -/
def isSigned : Field → Bool
  | linkAddress | debugInfoSize | debugAbbrevSize => false
  | _ => true

theorem mem_all (f : Field) : f ∈ all := by
  cases f <;> decide

theorem all_index (f : Field) : all[f.index]? = some f := by
  cases f <;> rfl

end Field

/-- The number of bytes a header takes: eight for each field. -/
def byteCount : Nat := 8 * Field.all.length

/-- The same as a size in memory. -/
def storedSize : UInt64 := UInt64.ofNat byteCount

@[simp]
theorem toNat_storedSize : storedSize.toNat = 80 := rfl

/-- The word stored for a field. -/
def word (h : Header) : Field → UInt64
  | .linkAddress => h.linkAddress.word
  | .imageBase => h.imageBase.toUInt64
  | .activate => h.activate.toUInt64
  | .mainExitTask => h.mainExitTask.toUInt64
  | .unwind => h.unwind.toUInt64
  | .yield => h.yield.toUInt64
  | .debugInfo => h.debugInfo.toUInt64
  | .debugInfoSize => h.debugInfoSize
  | .debugAbbrev => h.debugAbbrev.toUInt64
  | .debugAbbrevSize => h.debugAbbrevSize

/-- The header with the given words. -/
def ofWords (word : Field → UInt64) : Header where
  linkAddress := ⟨word .linkAddress⟩
  imageBase := (word .imageBase).toInt64
  activate := (word .activate).toInt64
  mainExitTask := (word .mainExitTask).toInt64
  unwind := (word .unwind).toInt64
  yield := (word .yield).toInt64
  debugInfo := (word .debugInfo).toInt64
  debugInfoSize := word .debugInfoSize
  debugAbbrev := (word .debugAbbrev).toInt64
  debugAbbrevSize := word .debugAbbrevSize

/-- The header of an image linked at the null address with nothing in it. -/
def zero : Header := ofWords fun _ => 0

/-- The header of zeros stands for any. -/
instance : Inhabited Header := ⟨zero⟩

/-- The header with the word of one field replaced. -/
def setWord (h : Header) (f : Field) (w : UInt64) : Header :=
  ofWords fun g => if g = f then w else h.word g

/-- The value of a field as a number: signed for a distance. -/
def value (h : Header) (f : Field) : Int :=
  if f.isSigned then (h.word f).toInt64.toInt else (h.word f).toNat

@[simp]
theorem word_ofWords (word : Field → UInt64) (f : Field) : (ofWords word).word f = word f := by
  cases f <;> simp [ofWords, Header.word]

@[simp]
theorem ofWords_word (h : Header) : ofWords h.word = h := by
  simp [ofWords, Header.word]

/-- Headers with the same words are the same. -/
theorem ext_word {h k : Header} (w : ∀ f, h.word f = k.word f) : h = k := by
  rw [← ofWords_word h, ← ofWords_word k, funext w]

end Header

end LoadedImage
