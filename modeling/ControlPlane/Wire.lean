import ControlPlane.Program

/-!
# The wire

What can be sent at all: a request whose URL is not one of the web, or cannot be written in a
request line, fails before anything goes out.
-/

namespace ControlPlane

/-- Why a URL cannot be sent to: only web schemes can, and a few characters that a host may hold
cannot go over the wire. -/
def wireFault? (url : Url) : Option HttpFault :=
  let isWeb := url.scheme = "http" || url.scheme = "https"
  let hostText := (url.host.map Url.Host.text).getD ""
  let isClean := hostText.toList.all fun c =>
    c ≠ '"' && c ≠ '\x7b' && c ≠ '\x7d' && c.toNat ≠ 0x60
  if isWeb ∧ isClean ∧ url.text.length < 65535 then none else some (.unformed (some url.text))

/-- One exchange over the wire, if the URL allows it. -/
def sendOverWire (request : Request) : Program (Except WireFault Response) :=
  match wireFault? request.url with
  | some fault => return .error (.failed fault)
  | none => Program.exchange request

end ControlPlane
