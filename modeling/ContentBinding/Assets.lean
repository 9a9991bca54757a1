/-! What the program brings along for the pages it serves. -/

namespace ContentBinding.Assets

def version : String := "0.1.0"

def scriptName : String := "live-reload.js"

/-- Where the files that come with the program are served. -/
def pathStart : String := "/_pagebind"

def scriptAddress : String :=
  pathStart ++ "/" ++ scriptName

/-- A page that runs this script loads itself again when it is told to. -/
def scriptText : String :=
  "(function liveReload() \x7b
  'use strict';

  var scheme = window.location.protocol === 'https:' ? 'wss:' : 'ws:';
  var socket = new WebSocket(scheme + '//' + window.location.host + '/ws/live-reload');

  socket.addEventListener('message', function (event) \x7b
    var message;
    try \x7b
      message = JSON.parse(event.data);
    \x7d catch (error) \x7b
      return;
    \x7d
    if (message.type === 'reload') \x7b
      window.location.reload();
    \x7d
  \x7d);
\x7d)();
"

/-- The files by name. -/
def files : List (String × String) :=
  [(scriptName, scriptText)]

end ContentBinding.Assets
