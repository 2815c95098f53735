import FiatRamp.Bank
import FiatRamp.Url.Reader

/-!
# FiatRamp.Redirect

Where banks send the user once a payment was authorised.

Partner and action become the last two segments of the path of a base URL; the
rest of the base stays as it is.
-/

namespace FiatRamp

/-- A base URL banks can send users to: one of the web, with a host. -/
structure RedirectBase where
  url : Url
  deriving DecidableEq

/-- Why a text is no such base. -/
inductive RedirectError where
  /-- It is no URL. -/
  | invalidUrl (cause : UrlError)
  /-- It is none of the web, has no host, or nothing can be resolved against it. -/
  | notHttp (raw : String)
  deriving DecidableEq

/-- What the user is told. -/
def RedirectError.message : RedirectError → String
  | .invalidUrl cause => "invalid callback base url: " ++ cause.message
  | .notHttp raw => "callback base url '" ++ raw ++ "' must be an http(s) url with a host"

/-- The URL has a host that names something. -/
def Url.hasHost (url : Url) : Bool := url.host.any Host.isNonempty

/-- No slash follows the scheme, so nothing can be resolved against the URL. -/
def Url.cannotBeBase (url : Url) : Bool :=
  (url.authorityToChars ++ url.path.toChars).head? != some '/'

namespace RedirectBase

/-- The base a text stands for. -/
def ofText (raw : String) : Except RedirectError RedirectBase :=
  match Url.ofText raw with
  | .error cause => .error (.invalidUrl cause)
  | .ok url =>
    if !url.isHttp || !url.hasHost || url.cannotBeBase then .error (.notHttp raw) else .ok ⟨url⟩

/-- The path with the segments of a callback at its end. -/
def extendPath (partner : BankPartner) (action : BankAction) : UrlPath → UrlPath
  | .segments list =>
    .segments (Url.pushSegment
      (Url.pushSegment (Url.dropEmptyEnd list) partner.word.toList) action.word.toList)
  | path => path

/-- The callback of a partner and an action. -/
def callback (base : RedirectBase) (partner : BankPartner) (action : BankAction) : Callback where
  partner := partner
  action := action
  redirectUrl := { base.url with path := extendPath partner action base.url.path }.toText

end RedirectBase

end FiatRamp
