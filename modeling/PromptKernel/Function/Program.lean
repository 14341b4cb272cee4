import PromptKernel.Error
import PromptKernel.Function.Result

/-! Programs of native functions. A program is a tree of what it asks of the kernel that runs it,
and goes on with the answer. -/

namespace PromptKernel

inductive Request
  | get (name : String)
  | set (name : String) (value : Json)
  | remove (name : String)
  | bindings
  | functions
  | services
  | cancel
  | isCancelled
  /-- Calls another function as it is, without binding anything; in a fork it works on a copy of
  the variables. -/
  | invoke (function : FunctionRef) (fork : Bool)
  | render (template : String)

/-- The services of a kernel by their models, and the default one. -/
structure ServiceNames where
  all : List String
  default? : Option String

/-- The kind of answer to a request. Errors of functions and templates are handed to the program,
which may deal with them. -/
def Request.Answer : Request → Type
  | get _ => Option Json
  | set _ _ => Option Json
  | remove _ => Option Json
  | bindings => Fields Json
  | functions => List FunctionRef
  | services => ServiceNames
  | cancel => Unit
  | isCancelled => Bool
  | invoke _ _ => Except Error Result
  | render _ => Except Error String

inductive Program (α : Type)
  | done (value : α)
  | fail (error : Error)
  | ask (request : Request) (next : request.Answer → Program α)

namespace Program

def bind (program : Program α) (next : α → Program β) : Program β :=
  match program with
  | done value => next value
  | fail error => fail error
  | ask request rest => ask request fun answer => (rest answer).bind next

instance : Monad Program where
  pure := done
  bind := bind

def request (request : Request) : Program request.Answer := ask request done

def ofExcept : Except Error α → Program α
  | .ok value => done value
  | .error error => fail error

end Program

/-- What runs when a native function is called with its bound arguments. -/
abbrev Handler := Fields Json → Program Json

end PromptKernel
