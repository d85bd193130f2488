import SourceAudit.Rule.Callee
import SourceAudit.Text

/-! Requests sent to addresses put together from untrusted input. -/
namespace SourceAudit.RequestForgery

/-- Calls that send a request. -/
def requestSinks : List String :=
  ["http.Get", "http.Post", "http.Head", "http.PostForm", "http.NewRequest",
    "http.NewRequestWithContext", "client.Get", "client.Post", "requests.get", "requests.post",
    "requests.put", "requests.patch", "requests.delete", "requests.head", "requests.request",
    "session.get", "session.post", "httpx.get", "httpx.post", "urllib.request.urlopen",
    "urllib2.urlopen", "urlopen", "reqwest.get", "reqwest.blocking.get", "client.get", "client.post",
    "client.put", "client.delete", "client.request", "ureq.get", "ureq.post", "fetch", "axios",
    "axios.get", "axios.post", "axios.put", "axios.delete", "axios.request", "got", "http.get",
    "https.get", "http.request", "https.request", ".getForObject", ".getForEntity", ".postForObject",
    ".openConnection", "curl_init", "Net.HTTP.get", "HTTParty.get", "URI.open"]

/-- Words that name an allow-list. -/
def guardWords : List String :=
  ["allowed", "allowlist", "allowlisted", "whitelist", "whitelisted", "safelist", "permitted"]

/-- Neighbouring words that name an allow-list. -/
def guardPairs : List (String × String) :=
  [("allow", "list"), ("white", "list"), ("safe", "list"), ("allow", "hosts")]

/-- Names of validators, without separators. -/
def validators : List String := ["validateurl", "validurl", "safeurl", "validatehost"]

/-- The words of a name from here on; `word` is the current word in reverse, and `afterLower` tells
whether a small letter or a digit came just before. -/
def wordsFrom (word : List Char) (afterLower : Bool) : List Char → List (List Char)
  | [] => if word.isEmpty then [] else [word.reverse]
  | c :: cs =>
    if !c.isAlphanum then
      if word.isEmpty then wordsFrom [] false cs else word.reverse :: wordsFrom [] false cs
    else
      let small := c.isLower || c.isDigit
      if c.isUpper && afterLower then word.reverse :: wordsFrom [c.toLower] small cs
      else wordsFrom (c.toLower :: word) small cs

/-- The words of a name in lower case, split at other characters and before a capital that follows a
small letter or a digit. -/
def nameWords (name : String) : List String := (wordsFrom [] false name.toList).map String.ofList

/-- The fragment refers to an allow-list or to a validator. -/
def isAllowList (f : Fragment) : Bool :=
  if f.kind = .stringLiteral then false
  else
    let words := nameWords f.text
    let joined := String.join words
    words.any guardWords.contains || (words.zip words.tail).any guardPairs.contains ||
      validators.any (containsText joined)

/-- The requests that the head sends. -/
def requests (w : Window) : List Fragment := w.head.filter (·.isSink requestSinks)

/-- The fragment is a name inside the arguments of one of `calls`. -/
def isInside (calls : List Fragment) (f : Fragment) : Bool :=
  decide (f.kind = .identifier) &&
    calls.any fun s => decide (s.span.start < f.span.start) && decide (f.span.stop ≤ s.span.stop)

/-- An allow-list or a validator is in sight; a name inside a request does not count. -/
def guarded (w : Window) : Bool :=
  let calls := requests w
  (w.context.filter (!isInside calls ·)).any isAllowList

def dynamicUrl (w : Window) : Option Hit :=
  if guarded w then none
  else
    (w.head.find? fun f =>
      f.isSink requestSinks && (f.positional.take 2).any Expr.splices).map Hit.of

def looksLikeUrl (e : Expr) : Bool :=
  let cs := e.template.toList
  occursIn "://".toList cs || "http".toList.isPrefixOf cs || cs.head? == some '/'

def builtThenRequested (w : Window) : Option Hit :=
  if guarded w then none
  else builtThenUsed w (fun e => e.splices && looksLikeUrl e) (·.isSink requestSinks)

def remediation : String :=
  "Validate outbound URLs against an allow-list of hosts and schemes, and block internal and " ++
    "link-local address ranges."

def rules : List Rule :=
  [{ id := "ssrf_dynamic_url"
     category := .ssrf
     severity := .high
     description := "Outbound request to a URL built from untrusted input"
     remediation
     kinds := { call := true }
     matcher := dynamicUrl },
   { id := "ssrf_built_then_requested"
     category := .ssrf
     severity := .high
     description := "URL built from untrusted input is requested"
     remediation
     kinds := { assignment := true }
     matcher := builtThenRequested }]

end SourceAudit.RequestForgery
