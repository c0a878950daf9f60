import AgentGateway.Text.Blank
import AgentGateway.Text.Casing
import AgentGateway.Text.Emoji.Names

/-! Pictures by name.

A name between two colons, with no blank in it, stands for its picture; the case of its
letters does not matter. An ending asks for the coloured form of the picture or for the
plain one. A name that is not known stays as it is, colons and all, and neither colon
begins another name. -/
namespace AgentGateway.Text.Emoji

/-! ### The table -/

/-- Words taken two by two. -/
def pairUp : List String → List (String × String)
  | name :: picture :: rest => (name, picture) :: pairUp rest
  | _ => []

def table : List (String × String) :=
  names.flatMap fun s => pairUp ((wordsBy isBlank s.toList).map String.ofList)


def ofName? (name : String) : Option String := table.lookup (lower name)

/-! ### Codes -/

/-- The endings that ask for a form, with the sign that selects it. -/
def forms : List (List Char × Char) :=
  [("-emoji".toList, Char.ofNat 0xfe0f), ("-text".toList, Char.ofNat 0xfe0e)]

/-- A code without its ending, and what the ending adds to the picture. -/
def withoutForm (code : List Char) : List Char × List Char :=
  match forms.find? fun f => f.1.isSuffixOf code with
  | some (ending, sign) => (code.take (code.length - ending.length), [sign])
  | none => (code, [])

/-- What a code shows. -/
def shown (code : List Char) : List Char :=
  let (name, form) := withoutForm code
  match ofName? (String.ofList name) with
  | some picture => picture.toList ++ form
  | none => ':' :: code ++ [':']

/-- The characters that a code may be made of. -/
def isCode (c : Char) : Bool := c != ':' && !isBlankOrSeparator c

/-- A text with its codes replaced. -/
def replace : List Char → List Char
  | [] => []
  | c :: rest =>
    let code := rest.takeWhile isCode
    if c = ':' ∧ (rest.drop code.length).head? = some ':' then
      shown code ++ replace (rest.drop (code.length + 1))
    else c :: replace rest
termination_by s => s.length
decreasing_by all_goals (simp only [List.length_drop, List.length_cons]; omega)

end AgentGateway.Text.Emoji
