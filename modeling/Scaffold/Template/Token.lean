/-!
# Template tokens

A template is text with tags in it.  Its tokens are the pieces of text, the delimiters of tags, and
the words, literals and operators inside tags, each with the line where it begins.
-/

namespace Scaffold.Template

inductive Token where
  | data (text : String)
  | variableBegin
  | variableEnd
  | blockBegin
  | blockEnd
  | name (word : String)
  | text (value : String)
  | int (value : Nat)
  | float (value : Float)
  | op (sign : String)

/-- What a message calls a token. -/
def Token.describe : Token → String
  | data _ => "template data / text"
  | variableBegin => "begin of print statement"
  | variableEnd => "end of print statement"
  | blockBegin => "begin of statement block"
  | blockEnd => "end of statement block"
  | name word => word
  | text _ => "string"
  | int _ => "integer"
  | float _ => "float"
  | op sign => sign

/-- A template that cannot be read: the line and what is wrong there. -/
structure TemplateFault where
  line : Nat
  message : String
  deriving DecidableEq, Repr

/-- Longer numbers are neither read nor written in decimal. -/
def digitLimit : Nat := 4300

/-- What else can end the reading of a template.  A template is turned into code, and the code is
read in turn: what is refused there, or goes beyond a limit before, is no fault of the template. -/
inductive Escape where
  /-- A number with too many digits, whose count is told when they are read. -/
  | longNumber (digits? : Option Nat)
  /-- The code is not well-formed. -/
  | badCode (message : String)
  /-- The blocks of the code are indented too deep. -/
  | badLayout
  /-- The calls of the readers are nested too deep. -/
  | tooDeep
  deriving DecidableEq, Repr

def Escape.message : Escape → String
  | longNumber (some digits) =>
      s!"Exceeds the limit ({digitLimit} digits) for integer string conversion: value has {digits}"
        ++ " digits; use sys.set_int_max_str_digits() to increase the limit"
  | longNumber none =>
      s!"Exceeds the limit ({digitLimit} digits) for integer string conversion"
        ++ "; use sys.set_int_max_str_digits() to increase the limit"
  | badCode message => message
  | badLayout => "too many levels of indentation"
  | tooDeep => "maximum recursion depth exceeded"

/-- Why there is no program for a template. -/
inductive Refusal where
  | fault (fault : TemplateFault)
  | escape (cause : Escape)
  deriving DecidableEq, Repr

/-- The tokens of a template up to its end or up to the first place that is no token. -/
structure TokenStream where
  tokens : List (Nat × Token)
  fault? : Option Refusal

namespace TokenStream

def cons (line : Nat) (token : Token) (stream : TokenStream) : TokenStream :=
  { stream with tokens := (line, token) :: stream.tokens }

def ended : TokenStream := ⟨[], none⟩

def broken (line : Nat) (message : String) : TokenStream := ⟨[], some (.fault ⟨line, message⟩)⟩

def escaped (cause : Escape) : TokenStream := ⟨[], some (.escape cause)⟩

end TokenStream

end Scaffold.Template
