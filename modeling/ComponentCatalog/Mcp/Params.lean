import ComponentCatalog.Mcp.Shape

namespace ComponentCatalog.Mcp.Params

open Shape

def token : Shape := .either .string .integral

-- What every request may carry.
def common : List (String × Bool × Shape) := [
  optional "_meta" (.record [optional "progressToken" token]),
  optional "task" (.record [optional "ttl" .integer])]

def capabilities : Shape := .record [
  optional "experimental" (.mapping object),
  optional "sampling" (.record [optional "context" object, optional "tools" object]),
  optional "elicitation" (.record [optional "form" object, optional "url" object]),
  optional "roots" (.record [optional "listChanged" .truth]),
  optional "tasks" (.record [
    optional "list" object,
    optional "cancel" object,
    optional "requests" (.record [
      optional "sampling" (.record [optional "createMessage" object]),
      optional "elicitation" (.record [optional "create" object])])])]

def icon : Shape := .record [
  needed "src" .string,
  optional "mimeType" .string,
  optional "sizes" (.list .string)]

def clientInfo : Shape := .record [
  needed "name" .string,
  needed "version" .string,
  optional "title" .string,
  optional "websiteUrl" .string,
  optional "icons" (.list icon)]

-- The parameters that open a session.
def opening : Shape := .record (common ++ [
  needed "protocolVersion" token,
  needed "capabilities" capabilities,
  needed "clientInfo" clientInfo])

def plain : Shape := .record common

def page : Shape := .record (common ++ [optional "cursor" .string])

def toolCall : Shape := .record (common ++ [needed "name" .string, optional "arguments" object])

def resourceRead : Shape := .record (common ++ [needed "uri" .string])

end ComponentCatalog.Mcp.Params
