import TokenDesk.Host

/-! A host that writes down what it is asked for and what comes of it. -/

set_option autoImplicit false

namespace TokenDesk

inductive HostEvent where
  | said (line : String)
  | askedPassphrase (message : String) (answer : Except String String)
  | posted (url : String) (body : Json) (reply : Except String HttpReply)
  | got (url : String) (reply : Except String HttpReply)
  | slept (time : Duration)
  | checked (path : String) (isPresent : Bool)
  | readText (path : String) (text : Except FileFault String)
  | wroteText (path text : String) (result : Except FileFault Unit)
  | createdFolders (path : String) (result : Except FileFault Unit)

variable {m : Type → Type} [Monad m]

def Host.noted {α : Type} (event : α → HostEvent) (action : m α) : StateT (List HostEvent) m α := do
  let answer ← (action : m α)
  modify fun journal => journal ++ [event answer]
  return answer

def Web.recorded (web : Web m) : Web (StateT (List HostEvent) m) where
  post url body := Host.noted (.posted url body) (web.post url body)
  get url := Host.noted (.got url) (web.get url)
  sleep time := Host.noted (fun _ => .slept time) (web.sleep time)

namespace Host

def recorded (host : Host m) : Host (StateT (List HostEvent) m) where
  files := {
    isPresent path := noted (.checked path) (host.files.isPresent path)
    readText path := .mk (noted (.readText path) (host.files.readText path).run)
    writeText path text := .mk (noted (.wroteText path text) (host.files.writeText path text).run)
    createFolders path := .mk (noted (.createdFolders path) (host.files.createFolders path).run) }
  web := host.web.recorded
  say line := noted (fun _ => .said line) (host.say line)
  askPassphrase message := noted (.askedPassphrase message) (host.askPassphrase message)

end Host

end TokenDesk
